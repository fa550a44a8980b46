import Narrative.Game
import Narrative.Scene.Loader
import Narrative.Terminal
import Narrative.Text.Blank

/-!
# Playing on a terminal

The player types one line at a time. Each is a command; after each the game goes on by itself for
a while, and then the terminal asks for the next.
-/

namespace Narrative

/-- A game that is played on a terminal. -/
structure Player where
  /-- The game. -/
  game : Game Terminal InstantLoader
  /-- Whether the player has left. -/
  isOver : Bool

/-- What a player can ask for. -/
inductive PlayerCommand where
  /-- Leave the game. -/
  | quit
  /-- Go on, or choose the highlighted option. -/
  | confirm
  /-- Highlight the option above. -/
  | up
  /-- Highlight the option below. -/
  | down
  /-- Open the menu. -/
  | openMenu
  /-- Close the menu. -/
  | closeMenu
  /-- Talk to a character. -/
  | talkTo (character : String)
  /-- Go to another state. -/
  | goTo (state : String)
  /-- Something that is no command. -/
  | unknown (command : String)
  deriving DecidableEq, Repr

namespace PlayerCommand

/-- What follows a word and a space at the front of some characters. -/
def after? (word characters : List Char) : Option (List Char) :=
  let front := word ++ [' ']
  if front.isPrefixOf characters then some (characters.drop front.length) else none

/-- The command of a line. White space around it, and around the name in it, does not count. -/
def ofLine (line : String) : PlayerCommand :=
  let command := Text.trim line
  match command with
  | "q" => quit
  | "" => confirm
  | "w" => up
  | "s" => down
  | "menu" => openMenu
  | "close" => closeMenu
  | _ =>
    match after? "talk".toList command.toList, after? "state".toList command.toList with
    | some name, _ => talkTo (String.ofList (Text.trimList name))
    | none, some name => goTo (String.ofList (Text.trimList name))
    | none, none => unknown command

end PlayerCommand

namespace Player

/-- What the screen shows before the game starts. -/
def greeting : List String :=
  ["=== shirube ===", "", "Controls:", "  Enter:          confirm",
    "  w / s:          move selection", "  talk <name>:    talk to a character (FreeRoam)",
    "  menu / close:   open or close the menu (FreeRoam)",
    "  state <name>:   finish the current state and switch to <name>",
    "  q:              quit", ""]

/-- What the screen shows when the player leaves. -/
def farewell : String := "Goodbye!"

/-- The player with a line on the screen. -/
def say (player : Player) (line : String) : Player :=
  { player with game := { player.game with host := player.game.host.writeLine line } }

/-- The player with a complaint on the screen, if there is one. -/
def complain (player : Player) (complaint : Option String) : Player :=
  match complaint with
  | some complaint => player.say s!"[{complaint}]"
  | none => player

/-- The complaint of a result. -/
def complaintOf {ε α : Type} (message : ε → String) : Except ε α → Option String
  | .ok _ => none
  | .error error => some (message error)

/-- Let the game go on by itself for some number of ticks of one second. -/
def idle (player : Player) (ticks : Nat) : Logged Player :=
  match ticks with
  | 0 => pure player
  | ticks + 1 => do
    let game ← player.game.tick (.wait (.ofSeconds 1))
    idle { player with game := game } ticks

/-- Where the game stands. -/
def place (player : Player) : String :=
  let state := player.game.currentState?.elim "-" StateKind.name
  match player.game.currentSubState? with
  | some sub => s!"[{state}/{sub}]"
  | none => s!"[{state}]"

/-- Ask for the next command. -/
def ask (player : Player) : Player :=
  let host := player.game.host.endLine
  { player with game := { player.game with host := host.write s!"{player.place} " } }

/-- Let the game go on by itself, and ask for the next command. -/
def settle (player : Player) : Logged Player := do
  let player ← player.idle 32
  pure player.ask

/-- Press a key. -/
def press (player : Player) (input : Input) : Logged Player := do
  let game ← player.game.tick (.press input)
  pure { player with game := game }

/-- Do what the player asks for. -/
def perform (player : Player) : PlayerCommand → Logged Player
  | .quit => pure { player.say farewell with isOver := true }
  | .confirm => player.press { Input.none with confirm := true }
  | .up => player.press { Input.none with up := true }
  | .down => player.press { Input.none with down := true }
  | .openMenu => do
    let (result, game) ← player.game.openMenu
    pure ({ player with game := game }.complain (complaintOf MachineError.message result))
  | .closeMenu => do
    let (result, game) ← player.game.closeMenu
    pure ({ player with game := game }.complain (complaintOf MachineError.message result))
  | .talkTo character => do
    let (result, game) ← player.game.talkTo character
    pure ({ player with game := game }.complain (complaintOf InteractionError.message result))
  | .goTo state =>
    match StateKind.ofName? state with
    | some kind => do
      let game ← player.game.requestState (.switch kind)
      pure { player with game := game }
    | none => pure (player.complain (some (StateKind.unknownName state)))
  | .unknown command => pure (player.complain (some s!"Unknown command '{command}'"))

/-- Take in a line, and ask for the next unless the player leaves. -/
def enter (player : Player) (line : String) : Logged Player := do
  let player ← player.perform (.ofLine line)
  if player.isOver then pure player else player.settle

/-- Take in lines until the player leaves or none is left. -/
def enterAll (player : Player) : List String → Logged Player
  | [] => pure player
  | line :: rest =>
    if player.isOver then pure player
    else do
      let player ← player.enter line
      player.enterAll rest

/-- The player at the first question; refused if the game cannot start. -/
def start (bundle : Bundle) (config : Config) : Logged (Except MachineError Player) := do
  match ← Game.ofBundle bundle config Terminal.empty InstantLoader.empty with
  | .error error => pure (.error error)
  | .ok game => do
    let player : Player := ⟨game, false⟩
    let player ← (greeting.foldl say player).settle
    pure (.ok player)

/-- What is on the screen, and the player with an empty one. -/
def takeScreen (player : Player) : String × Player :=
  let host := player.game.host
  (host.screen, { player with game := { player.game with host := { host with screen := "" } } })

end Player

end Narrative
