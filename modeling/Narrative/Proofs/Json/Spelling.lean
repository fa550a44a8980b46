import Narrative.Proofs.Json.Plain
import Narrative.Proofs.Json.Token

/-!
# Spellings of documents

A text spells a plain document when it has the tokens of the document in order, each in its
written form, with any white space between them. Both written forms are spellings, and every
spelling is read as its document.
-/

namespace Narrative.Json

/-- Whether a text has nothing but white space. -/
def Blank (gap : List Char) : Prop := ∀ c ∈ gap, isBlank c = true

/-- Whether a text has one token with white space around it. -/
def Around (token : Char) (input : List Char) : Prop :=
  ∃ before after, Blank before ∧ Blank after ∧ input = before ++ token :: after

mutual

/-- Whether a text spells a document that has no other numbers than integers. -/
def Spells : Json → List Char → Prop
  | null, input => input = compactText null
  | bool value, input => input = compactText (bool value)
  | integer value, input => input = integerText value
  | decimal _, _ => False
  | text value, input => input = quote value
  | array elements, input => ∃ before inner after, Blank before ∧ Blank after ∧
      SpellElements elements inner ∧ input = '[' :: (before ++ (inner ++ (after ++ [']'])))
  | object members, input => ∃ before inner after, Blank before ∧ Blank after ∧
      SpellMembers members inner ∧ input = '{' :: (before ++ (inner ++ (after ++ ['}'])))
  | unreadable _, _ => False

/-- Whether a text spells elements with commas between them. -/
def SpellElements : List Json → List Char → Prop
  | [], input => input = []
  | [element], input => Spells element input
  | element :: next :: rest, input => ∃ first comma others, Spells element first ∧
      Around ',' comma ∧ SpellElements (next :: rest) others ∧ input = first ++ (comma ++ others)

/-- Whether a text spells members with commas between them. -/
def SpellMembers : List (String × Json) → List Char → Prop
  | [], input => input = []
  | [(name, value)], input => ∃ colon content, Around ':' colon ∧ Spells value content ∧
      input = quote name ++ (colon ++ content)
  | (name, value) :: next :: rest, input => ∃ colon content comma others, Around ':' colon ∧
      Spells value content ∧ Around ',' comma ∧ SpellMembers (next :: rest) others ∧
      input = quote name ++ (colon ++ (content ++ (comma ++ others)))

end

section Writing

/-- No space is white space only. -/
theorem blank_nil : Blank [] := List.forall_mem_nil _

/-- A new line with its indentation is white space. -/
theorem blank_newLine (depth : Nat) : Blank (newLine depth) := by
  intro c member
  obtain rfl | spaces := List.mem_cons.1 member
  · rfl
  · rw [List.eq_of_mem_replicate spaces]
    rfl

/-- The indented form has a space after each colon. -/
theorem around_colon : Around ':' [':', ' '] :=
  ⟨[], [' '], blank_nil, List.forall_mem_singleton.2 rfl, rfl⟩

mutual

/-- The compact form spells its document. -/
theorem spells_compactText : ∀ {depth : Nat} {document : Json}, Plain depth document →
    Spells document (compactText document)
  | _, null, _ => rfl
  | _, bool _, _ => rfl
  | _, integer _, _ => by simp [Spells, compactText]
  | _, text _, _ => by simp [Spells, compactText]
  | _ + 1, array _, plain =>
    ⟨[], _, [], blank_nil, blank_nil, spells_compactElements plain, by simp [compactText]⟩
  | _ + 1, object _, plain =>
    ⟨[], _, [], blank_nil, blank_nil, spells_compactMembers plain, by simp [compactText]⟩

/-- The compact forms of elements spell them, with bare commas between them. -/
theorem spells_compactElements : ∀ {depth : Nat} {elements : List Json}, ArePlain depth elements →
    SpellElements elements (separate [','] (compactElements elements))
  | _, [], _ => rfl
  | _, [_], ⟨plain, _⟩ => spells_compactText plain
  | _, _ :: _ :: _, ⟨plain, others⟩ =>
    ⟨_, _, _, spells_compactText plain, ⟨[], [], blank_nil, blank_nil, rfl⟩,
      spells_compactElements others, by simp [compactElements, separate]⟩

/-- The compact forms of members spell them, with bare commas between them. -/
theorem spells_compactMembers : ∀ {depth : Nat} {members : List (String × Json)},
    HavePlain depth members → SpellMembers members (separate [','] (compactMembers members))
  | _, [], _ => rfl
  | _, [(_, _)], ⟨plain, _⟩ =>
    ⟨_, _, ⟨[], [], blank_nil, blank_nil, rfl⟩, spells_compactText plain,
      by simp [compactMembers, separate]⟩
  | _, (_, _) :: (_, _) :: _, ⟨plain, others⟩ =>
    ⟨_, _, _, _, ⟨[], [], blank_nil, blank_nil, rfl⟩, spells_compactText plain,
      ⟨[], [], blank_nil, blank_nil, rfl⟩, spells_compactMembers others,
      by simp [compactMembers, separate]⟩

end

mutual

/-- The indented form spells its document, at whatever depth it stands. -/
theorem spells_indentedText (level : Nat) : ∀ {depth : Nat} {document : Json},
    Plain depth document → Spells document (indentedText level document)
  | _, null, _ => rfl
  | _, bool _, _ => rfl
  | _, integer _, _ => by simp [Spells, indentedText, compactText]
  | _, text _, _ => by simp [Spells, indentedText, compactText]
  | _ + 1, array [], _ => ⟨[], [], [], blank_nil, blank_nil, rfl, by simp [indentedText]⟩
  | _ + 1, array (_ :: _), plain =>
    ⟨newLine (level + 1), _, newLine level, blank_newLine _, blank_newLine _,
      spells_indentedElements (level + 1) plain, by simp [indentedText]⟩
  | _ + 1, object [], _ => ⟨[], [], [], blank_nil, blank_nil, rfl, by simp [indentedText]⟩
  | _ + 1, object (_ :: _), plain =>
    ⟨newLine (level + 1), _, newLine level, blank_newLine _, blank_newLine _,
      spells_indentedMembers (level + 1) plain, by simp [indentedText]⟩

/-- The indented forms of elements spell them, with a new line after each comma. -/
theorem spells_indentedElements (level : Nat) : ∀ {depth : Nat} {elements : List Json},
    ArePlain depth elements → SpellElements elements
      (separate (',' :: newLine level) (indentedElements level elements))
  | _, [], _ => rfl
  | _, [_], ⟨plain, _⟩ => spells_indentedText level plain
  | _, _ :: _ :: _, ⟨plain, others⟩ =>
    ⟨_, _, _, spells_indentedText level plain,
      ⟨[], newLine level, blank_nil, blank_newLine level, rfl⟩,
      spells_indentedElements level others, by simp [indentedElements, separate]⟩

/-- The indented forms of members spell them, with a new line after each comma. -/
theorem spells_indentedMembers (level : Nat) : ∀ {depth : Nat} {members : List (String × Json)},
    HavePlain depth members → SpellMembers members
      (separate (',' :: newLine level) (indentedMembers level members))
  | _, [], _ => rfl
  | _, [(_, _)], ⟨plain, _⟩ =>
    ⟨[':', ' '], _, around_colon, spells_indentedText level plain,
      by simp [indentedMembers, separate]⟩
  | _, (_, _) :: (_, _) :: _, ⟨plain, others⟩ =>
    ⟨[':', ' '], _, _, _, around_colon, spells_indentedText level plain,
      ⟨[], newLine level, blank_nil, blank_newLine level, rfl⟩,
      spells_indentedMembers level others, by simp [indentedMembers, separate]⟩

end

end Writing

end Narrative.Json
