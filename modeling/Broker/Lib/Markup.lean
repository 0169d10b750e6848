import Broker.Lib.Escaping
import Broker.Lib.Text

/-!
# Markup

A document is read as a sequence of tags (`run`): each with the text before it and
its parts, markup and quoted values in turn. The characters that a lexer acts on,
`<`, `>` and the two quotation marks, are what a table of escapes has to replace
(`Guards`) so that a text can be put anywhere into a document.

A template is a document with holes. It is read like one, whatever the texts that
fill its holes: in the tags of the document these stand where the holes are in the
tags of the template (`run_fill`). A reader of XML documents finds these tags if the
characters are such that it passes them on as they are (`readTags_of_readable`). So do
they stand in the controls of a form (`controls_fill`), and the controls of a document are those of its blocks
(`formControls_flatten`).
-/

namespace Markup

open Escaping

variable {α β η : Type*}

/-! ## The lexer -/

/-- Where in a document the lexer is: in a value after a single or a double quotation mark,
    or not. -/
inductive Place
  | text
  | tag
  | quoted (double : Bool)
  deriving DecidableEq

/-- The quotation mark of a value. -/
def mark (double : Bool) : Char := if double then '"' else '\''

/-- A tag, after the text before it: values, each with the markup before it, and the markup
    after the last of them. -/
structure Tag (α : Type*) where
  text : List α
  parts : List (List α × List α)
  rest : List α
  deriving DecidableEq

/-- The lexer, with what it has read of a tag, and of a text, a markup or a value. -/
structure State (α : Type*) where
  place : Place
  text : List α
  parts : List (List α × List α)
  markup : List α
  buffer : List α
  deriving DecidableEq

namespace State

/-- The lexer in a text, of which it has read this. -/
def within (s : List α) : State α := ⟨.text, [], [], [], s⟩

/-- More is read in the same place. -/
def push (st : State α) (s : List α) : State α := { st with buffer := st.buffer ++ s }

/-- What a character does that leads to another place: it may complete a tag. -/
def turn (st : State α) (c : Char) : Option (State α × List (Tag α)) :=
  match st.place with
  | .text => if c = '<' then some (⟨.tag, st.buffer, [], [], []⟩, []) else none
  | .tag =>
    if c = '>' then some (within [], [⟨st.text, st.parts, st.buffer⟩])
    else if c = mark true then some (⟨.quoted true, st.text, st.parts, st.buffer, []⟩, [])
    else if c = mark false then some (⟨.quoted false, st.text, st.parts, st.buffer, []⟩, [])
    else none
  | .quoted double =>
    if c = mark double then some (⟨.tag, st.text, st.parts ++ [(st.markup, st.buffer)], [], []⟩, [])
    else none

end State

/-- A symbol is read. The lexer acts on those that are characters. -/
def step (view : α → Option Char) (st : State α) (a : α) : State α × List (Tag α) :=
  ((view a).bind st.turn).getD (st.push [a], [])

/-- Symbols are read, with the tags that they complete. -/
def run (view : α → Option Char) (st : State α) : List α → State α × List (Tag α)
  | [] => (st, [])
  | a :: s =>
    let (st', tags) := step view st a
    let (st'', tags') := run view st' s
    (st'', tags ++ tags')

/-- The tags of a document. -/
def tags (doc : List Char) : List (Tag Char) := (run some (.within []) doc).2

theorem run_cons (view : α → Option Char) (st : State α) (a : α) (s : List α) :
    run view st (a :: s) = ((run view (step view st a).1 s).1,
      (step view st a).2 ++ (run view (step view st a).1 s).2) := rfl

theorem run_append (view : α → Option Char) (st : State α) (s t : List α) :
    run view st (s ++ t) = ((run view (run view st s).1 t).1,
      (run view st s).2 ++ (run view (run view st s).1 t).2) := by
  induction s generalizing st with
  | nil => rfl
  | cons a s ih => rw [List.cons_append, run_cons, ih, run_cons, List.append_assoc]

/-! ## Templates -/

/-- A symbol of a template. -/
inductive Symbol (η : Type*)
  | char (c : Char)
  | hole (h : η)
  deriving DecidableEq

/-- The character of a symbol that is one. -/
def Symbol.view : Symbol η → Option Char
  | .char c => some c
  | .hole _ => none

/-- A piece of a template. -/
inductive Piece (η : Type*)
  | literal (s : String)
  | hole (h : η)

/-- The symbols of a template. -/
def symbols : List (Piece η) → List (Symbol η)
  | [] => []
  | .literal s :: pieces => s.toList.map .char ++ symbols pieces
  | .hole h :: pieces => .hole h :: symbols pieces

/-- The symbols of a template, given the characters of its literals. -/
inductive Spells : List (Piece η) → List (Symbol η) → Prop
  | nil : Spells [] []
  | literal {s : String} {l : List Char} (h : s = String.ofList l) {pieces : List (Piece η)}
      {syms : List (Symbol η)} (rest : Spells pieces syms) :
    Spells (.literal s :: pieces) (l.map .char ++ syms)
  | hole (h : η) {pieces : List (Piece η)} {syms : List (Symbol η)} (rest : Spells pieces syms) :
    Spells (.hole h :: pieces) (.hole h :: syms)

theorem Spells.symbols_eq {pieces : List (Piece η)} {syms : List (Symbol η)}
    (h : Spells pieces syms) : symbols pieces = syms := by
  induction h with
  | nil => rfl
  | literal hs rest ih => rw [symbols, ih, hs, String.toList_ofList]
  | hole h rest ih => rw [symbols, ih]

section Filling

variable (table : List (Char × List Char)) (texts : η → List Char)

/-- What stands for a symbol in a document. -/
def Symbol.fill : Symbol η → List Char
  | .char c => [c]
  | .hole h => escape table (texts h)

/-- A template whose holes are filled with escaped texts. -/
def fill (s : List (Symbol η)) : List Char := s.flatMap (Symbol.fill table texts)

/-- What stands for a piece in a document. -/
def Piece.render : Piece η → List Char
  | .literal s => s.toList
  | .hole h => escape table (texts h)

/-- The document of a template. -/
def render (pieces : List (Piece η)) : List Char := pieces.flatMap (Piece.render table texts)

variable {table texts}

theorem fill_append (s t : List (Symbol η)) :
    fill table texts (s ++ t) = fill table texts s ++ fill table texts t :=
  List.flatMap_append

theorem fill_map_char (s : List Char) : fill table texts (s.map .char) = s := by
  induction s with
  | nil => rfl
  | cons c s ih =>
    rw [List.map_cons, fill, List.flatMap_cons, ← fill, ih]
    rfl

theorem render_eq (pieces : List (Piece η)) :
    render table texts pieces = fill table texts (symbols pieces) := by
  induction pieces with
  | nil => rfl
  | cons piece pieces ih =>
    rw [render] at ih
    rw [render, List.flatMap_cons, ih]
    cases piece with
    | literal s =>
      rw [symbols, fill_append, fill_map_char]
      rfl
    | hole h => rfl

end Filling

/-! ## Reading templates -/

/-- A tag with what a function makes of its symbols. -/
def Tag.map (f : List α → List β) (t : Tag α) : Tag β :=
  ⟨f t.text, t.parts.map fun p => (f p.1, f p.2), f t.rest⟩

/-- A lexer with what a function makes of the symbols it has read. -/
def State.map (f : List α → List β) (st : State α) : State β :=
  ⟨st.place, f st.text, st.parts.map fun p => (f p.1, f p.2), f st.markup, f st.buffer⟩

theorem State.turn_map {f : List α → List β} (hf : f [] = []) (st : State α) (c : Char) :
    (st.map f).turn c = (st.turn c).map fun r => (r.1.map f, r.2.map (Tag.map f)) := by
  obtain ⟨place, text, parts, markup, buffer⟩ := st
  cases place with
  | text =>
    simp only [State.turn, State.map]
    split_ifs
    · simp [hf]
    · rfl
  | tag =>
    simp only [State.turn, State.map]
    split_ifs
    · simp [State.within, Tag.map, hf]
    · simp [hf]
    · simp [hf]
    · rfl
  | quoted double =>
    simp only [State.turn, State.map]
    split_ifs
    · simp [hf]
    · rfl

/-- The characters that a lexer acts on. -/
def specials : List Char := ['<', '>', '"', '\'']

/-- The table replaces the characters that a lexer acts on by texts without them. -/
def Guards (table : List (Char × List Char)) : Prop :=
  ∀ c ∈ specials, c ∈ table.map Prod.fst ∧ ∀ e ∈ table, c ∉ e.2

instance (table : List (Char × List Char)) : Decidable (Guards table) :=
  List.decidableBAll _ _

theorem State.turn_eq_none {st : State α} {c : Char} (h : c ∉ specials) : st.turn c = none := by
  simp only [specials, List.mem_cons, List.not_mem_nil, or_false, not_or] at h
  obtain ⟨hopen, hclose, hdouble, hsingle⟩ := h
  rw [State.turn]
  cases st.place with
  | text => exact if_neg hopen
  | tag => exact (if_neg hclose).trans ((if_neg hdouble).trans (if_neg hsingle))
  | quoted double =>
    cases double with
    | false => exact if_neg hsingle
    | true => exact if_neg hdouble

/-- A text without special characters is read in one place. -/
theorem run_plain {s : List Char} (h : ∀ c ∈ s, c ∉ specials) (st : State Char) :
    run some st s = (st.push s, []) := by
  induction s generalizing st with
  | nil =>
    rw [run, State.push, List.append_nil]
  | cons c s ih =>
    rw [List.forall_mem_cons] at h
    have hstep : step some st c = (st.push [c], []) := by
      rw [step, Option.bind_some, State.turn_eq_none h.1]
      rfl
    rw [run_cons, hstep, ih h.2, State.push, State.push, State.push, List.append_assoc]
    rfl

section

variable {table : List (Char × List Char)} {texts : η → List Char}

theorem plain_escape (guards : Guards table) (s : List Char) :
    ∀ c ∈ escape table s, c ∉ specials := fun c hc hspecial =>
  notMem_escape (guards c hspecial).1 (guards c hspecial).2 s hc

theorem State.map_push (table : List (Char × List Char)) (texts : η → List Char)
    (st : State (Symbol η)) (s : List (Symbol η)) :
    (st.push s).map (fill table texts) = (st.map (fill table texts)).push (fill table texts s) := by
  rw [State.push, State.map, fill_append]
  rfl

/-- A filled symbol is read as the symbol is. -/
theorem run_fill_symbol (guards : Guards table) (st : State (Symbol η)) (a : Symbol η) :
    run some (st.map (fill table texts)) (a.fill table texts) =
      ((step Symbol.view st a).1.map (fill table texts),
        (step Symbol.view st a).2.map (Tag.map (fill table texts))) := by
  cases a with
  | char c =>
    rw [Symbol.fill, run_cons, run, step, step, Symbol.view, Option.bind_some, Option.bind_some,
      State.turn_map rfl, List.append_nil]
    cases st.turn c with
    | none =>
      rw [Option.map_none, Option.getD_none, Option.getD_none, State.map_push]
      rfl
    | some r => rfl
  | hole h =>
    have hpush := State.map_push table texts st [.hole h]
    have hfill : fill table texts [.hole h] = escape table (texts h) :=
      List.flatMap_singleton _ _
    rw [hfill] at hpush
    rw [Symbol.fill, run_plain (plain_escape guards _), ← hpush]
    rfl

/-- A template is read the same way whatever fills its holes. -/
theorem run_fill (guards : Guards table) (texts : η → List Char) (s : List (Symbol η)) (st : State (Symbol η)) :
    run some (st.map (fill table texts)) (fill table texts s) =
      ((run Symbol.view st s).1.map (fill table texts),
        (run Symbol.view st s).2.map (Tag.map (fill table texts))) := by
  induction s generalizing st with
  | nil => rfl
  | cons a s ih =>
    rw [fill, List.flatMap_cons, ← fill, run_append, run_fill_symbol guards, ih, run_cons,
      List.map_append]

/-- The tags of a rendered template are those of the template, filled. -/
theorem tags_render (guards : Guards table) (pieces : List (Piece η)) :
    tags (render table texts pieces) =
      (run Symbol.view (.within []) (symbols pieces)).2.map (Tag.map (fill table texts)) := by
  rw [tags, render_eq]
  exact congrArg Prod.snd (run_fill guards texts (symbols pieces) (.within []))

end

/-! ## XML documents -/

/-- The characters of XML documents. -/
def IsXmlChar (c : Char) : Prop :=
  c = '\t' ∨ c = '\n' ∨ c = '\r' ∨ 0x20 ≤ c.toNat ∧ c.toNat ≤ 0xfffd ∨ 0x10000 ≤ c.toNat

instance (c : Char) : Decidable (IsXmlChar c) := inferInstanceAs (Decidable (_ ∨ _))

/-- A document that consists of such characters. -/
def IsXmlText (doc : List Char) : Prop := ∀ c ∈ doc, IsXmlChar c

instance (doc : List Char) : Decidable (IsXmlText doc) := List.decidableBAll _ _

/-- The ends of the lines of a document, as a reader passes them on. -/
def normalizeLineEnds : List Char → List Char
  | [] => []
  | '\r' :: '\n' :: s => '\n' :: normalizeLineEnds s
  | '\r' :: s => '\n' :: normalizeLineEnds s
  | c :: s => c :: normalizeLineEnds s

/-- The tags that an XML reader finds: it refuses other characters, and changes the ends of lines. -/
def readTags (doc : List Char) : Option (List (Tag Char)) :=
  if IsXmlText doc then some (tags (normalizeLineEnds doc)) else none

/-- A reader passes the character on as it is. -/
def IsReadable (c : Char) : Prop := IsXmlChar c ∧ c ≠ '\r'

instance (c : Char) : Decidable (IsReadable c) := inferInstanceAs (Decidable (_ ∧ _))

/-- A reader passes all of the text on as it is. -/
def AllReadable (s : List Char) : Prop := ∀ c ∈ s, IsReadable c

instance (s : List Char) : Decidable (AllReadable s) := List.decidableBAll _ _

theorem normalizeLineEnds_of_notMem {s : List Char} (h : '\r' ∉ s) : normalizeLineEnds s = s := by
  induction s using normalizeLineEnds.induct with
  | case1 => rfl
  | case2 s ih => exact absurd List.mem_cons_self h
  | case3 s hne ih => exact absurd List.mem_cons_self h
  | case4 c s hcrlf hcr ih =>
    rw [normalizeLineEnds, ih fun hs => h (List.mem_cons_of_mem _ hs)]
    · exact hcrlf
    · exact hcr

/-- A document of readable characters is read as it is. -/
theorem readTags_of_readable {doc : List Char} (h : AllReadable doc) :
    readTags doc = some (tags doc) := by
  have hxml : IsXmlText doc := fun c hc => (h c hc).1
  rw [readTags, if_pos hxml, normalizeLineEnds_of_notMem fun hcr => (h _ hcr).2 rfl]

section

variable {table : List (Char × List Char)} {texts : η → List Char} {p : Char → Prop}

/-- What holds of the characters of a text and of the replacements holds of the escaped text. -/
theorem forall_mem_escape (htable : ∀ e ∈ table, ∀ c ∈ e.2, p c) {s : List Char}
    (h : ∀ c ∈ s, p c) : ∀ c ∈ escape table s, p c := by
  intro c hc
  obtain ⟨a, ha, hc⟩ := List.mem_flatMap.1 hc
  rcases escapeChar_cases table a with he | ⟨heq, -⟩
  · exact htable _ he c hc
  · rw [heq, List.mem_singleton] at hc
    exact hc ▸ h a ha

/-- What holds of the characters of a template, of its texts and of the replacements holds of the
    document. -/
theorem forall_mem_render (htable : ∀ e ∈ table, ∀ c ∈ e.2, p c) {pieces : List (Piece η)}
    (hpieces : ∀ a ∈ symbols pieces, ∀ c ∈ a.view, p c) (htexts : ∀ h, ∀ c ∈ texts h, p c) :
    ∀ c ∈ render table texts pieces, p c := by
  intro c hc
  rw [render_eq] at hc
  obtain ⟨a, ha, hc⟩ := List.mem_flatMap.1 hc
  cases a with
  | char c' =>
    obtain rfl := List.mem_singleton.1 hc
    exact hpieces _ ha _ rfl
  | hole hole => exact forall_mem_escape htable (htexts hole) c hc

end

/-! ## Forms -/

/-- The characters among symbols. -/
def chars (view : α → Option Char) (s : List α) : List Char := s.filterMap view

/-- The name of the attribute whose value a markup is before: what is between its last blank
    and the equals sign that it ends in. -/
def attributeName (markup : List Char) : List Char :=
  ((markup.reverse.drop 1).takeWhile fun c => !Py.isSpace c).reverse

/-- The name of a tag. -/
def Tag.name (view : α → Option Char) (t : Tag α) : List Char :=
  (chars view (t.parts.head?.elim t.rest Prod.fst)).takeWhile fun c => !Py.isSpace c

/-- The value of an attribute of a tag. -/
def Tag.attribute? (view : α → Option Char) (name : List Char) (t : Tag α) : Option (List α) :=
  (t.parts.find? fun p => attributeName (chars view p.1) = name).map Prod.snd

/-- A control of a form: an input or a button. -/
structure Control (α : Type*) where
  type : Option (List α)
  name : Option (List α)
  value : Option (List α)
  deriving DecidableEq

/-- The control that a tag is. -/
def Tag.control (view : α → Option Char) (t : Tag α) : Control α where
  type := t.attribute? view ['t', 'y', 'p', 'e']
  name := t.attribute? view ['n', 'a', 'm', 'e']
  value := t.attribute? view ['v', 'a', 'l', 'u', 'e']

/-- The names of the tags of controls. -/
def controlNames : List (List Char) := [['i', 'n', 'p', 'u', 't'], ['b', 'u', 't', 't', 'o', 'n']]

/-- The controls among tags. -/
def controls (view : α → Option Char) (ts : List (Tag α)) : List (Control α) :=
  (ts.filter fun t => controlNames.contains (t.name view)).map (Tag.control view)

/-- A control with what a function makes of its symbols. -/
def Control.map (f : List α → List β) (c : Control α) : Control β :=
  ⟨c.type.map f, c.name.map f, c.value.map f⟩

/-- The markup of a tag of a template has no holes. -/
def Tag.Plain (t : Tag (Symbol η)) : Prop :=
  (∀ p ∈ t.parts, ∀ a ∈ p.1, a.view.isSome = true) ∧ ∀ a ∈ t.rest, a.view.isSome = true

instance (t : Tag (Symbol η)) : Decidable t.Plain := inferInstanceAs (Decidable (_ ∧ _))

section

variable {table : List (Char × List Char)} {texts : η → List Char}

theorem chars_fill {s : List (Symbol η)} (h : ∀ a ∈ s, a.view.isSome = true) :
    chars some (fill table texts s) = chars Symbol.view s := by
  rw [chars, chars, List.filterMap_some]
  induction s with
  | nil => rfl
  | cons a s ih =>
    rw [List.forall_mem_cons] at h
    rw [fill, List.flatMap_cons, ← fill, ih h.2]
    cases a with
    | char c => rfl
    | hole h' => cases h.1

theorem Tag.name_fill {t : Tag (Symbol η)} (h : t.Plain) :
    (t.map (fill table texts)).name some = t.name Symbol.view := by
  rw [Tag.name, Tag.name, Tag.map]
  dsimp only
  cases hparts : t.parts with
  | nil =>
    simp only [List.map_nil, List.head?_nil, Option.elim_none]
    rw [chars_fill h.2]
  | cons p parts =>
    have hp : p ∈ t.parts := hparts ▸ List.mem_cons_self
    simp only [List.map_cons, List.head?_cons, Option.elim_some]
    rw [chars_fill (h.1 p hp)]

theorem Tag.attribute?_fill {t : Tag (Symbol η)} (h : t.Plain) (name : List Char) :
    (t.map (fill table texts)).attribute? some name =
      (t.attribute? Symbol.view name).map (fill table texts) := by
  have hparts := h.1
  rw [Tag.attribute?, Tag.attribute?, Tag.map]
  dsimp only
  generalize t.parts = parts at hparts
  induction parts with
  | nil => rfl
  | cons p parts ih =>
    rw [List.forall_mem_cons] at hparts
    rw [List.map_cons, List.find?_cons, List.find?_cons]
    dsimp only
    rw [chars_fill hparts.1]
    cases decide (attributeName (chars Symbol.view p.1) = name) with
    | true => rfl
    | false => exact ih hparts.2

/-- The controls of a rendered template are those of the template, filled. -/
theorem controls_fill {ts : List (Tag (Symbol η))} (h : ∀ t ∈ ts, t.Plain) :
    controls some (ts.map (Tag.map (fill table texts))) =
      (controls Symbol.view ts).map (Control.map (fill table texts)) := by
  induction ts with
  | nil => rfl
  | cons t ts ih =>
    rw [List.forall_mem_cons] at h
    have hcontrol : (t.map (fill table texts)).control some =
        (t.control Symbol.view).map (fill table texts) := by
      rw [Tag.control, Tag.attribute?_fill h.1, Tag.attribute?_fill h.1, Tag.attribute?_fill h.1]
      rfl
    have htail := ih h.2
    rw [controls, controls] at htail ⊢
    rw [List.map_cons, List.filter_cons, List.filter_cons, Tag.name_fill h.1]
    split_ifs
    · rw [List.map_cons, List.map_cons, List.map_cons, htail, hcontrol]
    · exact htail

end

/-- The name of a tag, and those of its attributes with a value. -/
def Tag.skeleton (view : α → Option Char) (t : Tag α) : String × List String :=
  (String.ofList (t.name view),
    t.parts.map fun p => String.ofList (attributeName (chars view p.1)))

theorem Tag.skeleton_fill {table : List (Char × List Char)} {texts : η → List Char}
    {t : Tag (Symbol η)} (h : t.Plain) :
    (t.map (fill table texts)).skeleton some = t.skeleton Symbol.view := by
  have hparts := h.1
  rw [skeleton, skeleton, Tag.name_fill h, Tag.map, List.map_map]
  refine congrArg _ (List.map_congr_left fun p hp => ?_)
  rw [Function.comp_apply, chars_fill (hparts p hp)]

/-- Symbols whose characters are not replaced are filled as if the whole were escaped. -/
theorem fill_eq_escape {table : List (Char × List Char)} {texts : η → List Char}
    {s : List (Symbol η)} (h : ∀ a ∈ s, ∀ c ∈ a.view, c ∉ table.map Prod.fst) :
    fill table texts s = escape table (fill [] texts s) := by
  induction s with
  | nil => rfl
  | cons a s ih =>
    rw [List.forall_mem_cons] at h
    rw [fill, List.flatMap_cons, ← fill, ih h.2, fill, fill, List.flatMap_cons, escape_append]
    cases a with
    | char c =>
      rw [Symbol.fill, Symbol.fill, escape_cons, escapeChar_of_notMem (h.1 c rfl)]
      rfl
    | hole h' =>
      have hraw : escape [] (texts h') = texts h' := escape_of_notMem fun c _ => List.not_mem_nil
      rw [Symbol.fill, Symbol.fill, hraw]

/-! ## Blocks -/

/-- The controls of a document. -/
def formControls (doc : List Char) : List (Control Char) := controls some (tags doc)

/-- The document ends in a text. -/
def IsBlock (doc : List Char) : Prop := (run some (.within []) doc).1.place = .text

/-- The lexer without the text that it has read. -/
def State.forget (st : State α) : State α :=
  if st.place = .text then .within [] else { st with text := [] }

/-- The text before a tag makes no difference to its attributes. -/
theorem controls_forget {ts ts' : List (Tag α)} {view : α → Option Char}
    (h : ts.map (fun t => (t.parts, t.rest)) = ts'.map fun t => (t.parts, t.rest)) :
    controls view ts = controls view ts' := by
  induction ts generalizing ts' with
  | nil =>
    rw [List.map_nil, eq_comm, List.map_eq_nil_iff] at h
    rw [h]
  | cons t ts ih =>
    cases ts' with
    | nil => cases h
    | cons t' ts' =>
      obtain ⟨htag, htail⟩ := List.cons.inj h
      obtain ⟨hparts, hrest⟩ := Prod.mk.inj htag
      have hname : t.name view = t'.name view := by
        rw [Tag.name, Tag.name, hparts, hrest]
      have hcontrol : t.control view = t'.control view := by
        rw [Tag.control, Tag.attribute?, Tag.attribute?, Tag.attribute?, hparts]
        rfl
      have hcontrols := ih htail
      rw [controls, controls] at hcontrols ⊢
      rw [List.filter_cons, List.filter_cons, hname]
      split_ifs
      · rw [List.map_cons, List.map_cons, hcontrol, hcontrols]
      · exact hcontrols

theorem State.place_forget (st : State α) : st.forget.place = st.place := by
  rw [forget]
  split_ifs with h
  · exact h.symm
  · rfl

/-- Lexers that differ in the text that they have read go on alike. -/
theorem step_forget (view : α → Option Char) {st st' : State α} (h : st.forget = st'.forget) (a : α) :
    (step view st a).1.forget = (step view st' a).1.forget ∧
      (step view st a).2.map (fun t => (t.parts, t.rest)) =
        (step view st' a).2.map fun t => (t.parts, t.rest) := by
  have hplace : st.place = st'.place := by
    rw [← st.place_forget, h, st'.place_forget]
  obtain ⟨place, text, parts, markup, buffer⟩ := st
  obtain ⟨place', text', parts', markup', buffer'⟩ := st'
  dsimp only at hplace
  subst hplace
  by_cases htext : place = .text
  · subst htext
    rw [step, step]
    cases view a with
    | none => exact ⟨rfl, rfl⟩
    | some c =>
      rw [Option.bind_some, Option.bind_some, State.turn, State.turn]
      dsimp only
      split_ifs <;> exact ⟨rfl, rfl⟩
  · rw [State.forget, State.forget, if_neg htext, if_neg htext, State.mk.injEq] at h
    obtain ⟨-, -, rfl, rfl, rfl⟩ := h
    rw [step, step]
    cases view a with
    | none => exact ⟨rfl, rfl⟩
    | some c =>
      rw [Option.bind_some, Option.bind_some, State.turn, State.turn]
      cases place with
      | text => exact absurd rfl htext
      | tag =>
        dsimp only
        split_ifs <;> exact ⟨rfl, rfl⟩
      | quoted double =>
        dsimp only
        split_ifs <;> exact ⟨rfl, rfl⟩

theorem run_forget (view : α → Option Char) (s : List α) {st st' : State α}
    (h : st.forget = st'.forget) :
    (run view st s).1.forget = (run view st' s).1.forget ∧
      (run view st s).2.map (fun t => (t.parts, t.rest)) =
        (run view st' s).2.map fun t => (t.parts, t.rest) := by
  induction s generalizing st st' with
  | nil => exact ⟨h, rfl⟩
  | cons a s ih =>
    obtain ⟨hstate, htags⟩ := step_forget view h a
    obtain ⟨hstate', htags'⟩ := ih hstate
    rw [run_cons, run_cons, List.map_append, List.map_append, htags, htags']
    exact ⟨hstate', rfl⟩

/-- After a block the lexer goes on as at the start of a document. -/
theorem run_of_isBlock {s : List Char} (h : IsBlock s) (t : List Char) :
    (run some (run some (.within []) s).1 t).1.place = (run some (.within []) t).1.place ∧
      controls some (run some (run some (.within []) s).1 t).2 = formControls t := by
  have hforget : (run some (State.within []) s).1.forget = (State.within []).forget := by
    exact if_pos h
  obtain ⟨hstate, htags⟩ := run_forget some t hforget
  have hplace := congrArg State.place hstate
  rw [State.place_forget, State.place_forget] at hplace
  exact ⟨hplace, controls_forget htags⟩

/-- The controls of a document are those of its blocks. -/
theorem formControls_append {s : List Char} (h : IsBlock s) (t : List Char) :
    formControls (s ++ t) = formControls s ++ formControls t := by
  have htail := (run_of_isBlock h t).2
  rw [formControls, tags, run_append, controls, List.filter_append, List.map_append, ← controls, ← controls,
    htail]
  rfl

/-- A text without tags is a block without controls. -/
theorem formControls_of_notMem {s : List Char} (h : '<' ∉ s) : IsBlock s ∧ formControls s = [] := by
  have hrun : ∀ b : List Char, run some (State.within b) s = (.within (b ++ s), []) := by
    induction s with
    | nil =>
      intro b
      rw [List.append_nil]
      rfl
    | cons c s ih =>
      intro b
      have hstep : step some (State.within b) c = (.within (b ++ [c]), []) := by
        rw [step, Option.bind_some, State.turn, State.within]
        exact congrArg (Option.getD · _) (if_neg fun hc : c = '<' => h (hc ▸ List.mem_cons_self))
      rw [run_cons, hstep, ih fun hs => h (List.mem_cons_of_mem c hs), List.append_assoc]
      rfl
  rw [IsBlock, formControls, tags, hrun]
  exact ⟨rfl, rfl⟩

theorem IsBlock.append {s t : List Char} (h : IsBlock s) (h' : IsBlock t) : IsBlock (s ++ t) := by
  rw [IsBlock, run_append]
  exact (run_of_isBlock h t).1.trans h'

/-- A document of blocks, with the controls of each. -/
theorem formControls_flatten {blocks : List (List Char)} (h : ∀ block ∈ blocks, IsBlock block) :
    IsBlock blocks.flatten ∧ formControls blocks.flatten = blocks.flatMap formControls := by
  induction blocks with
  | nil => exact ⟨rfl, rfl⟩
  | cons block blocks ih =>
    rw [List.forall_mem_cons] at h
    obtain ⟨hblock, hcontrols⟩ := ih h.2
    rw [List.flatten_cons, formControls_append h.1, hcontrols, List.flatMap_cons]
    exact ⟨h.1.append hblock, rfl⟩

/-- A template whose documents are blocks, with these controls. -/
structure HasControls (pieces : List (Piece η)) (cs : List (Control (Symbol η))) : Prop where
  place : (run Symbol.view (.within []) (symbols pieces)).1.place = .text
  plain : ∀ t ∈ (run Symbol.view (.within []) (symbols pieces)).2, t.Plain
  controls : controls Symbol.view (run Symbol.view (.within []) (symbols pieces)).2 = cs

/-- A template is read by its characters. -/
theorem HasControls.of_spells {pieces : List (Piece η)} {syms : List (Symbol η)}
    {cs : List (Control (Symbol η))} (spells : Spells pieces syms)
    (h : (run Symbol.view (.within []) syms).1.place = .text ∧
      (∀ t ∈ (run Symbol.view (.within []) syms).2, t.Plain) ∧
      Markup.controls Symbol.view (run Symbol.view (.within []) syms).2 = cs) : HasControls pieces cs := by
  obtain ⟨hplace, hplain, hcontrols⟩ := h
  rw [← spells.symbols_eq] at hplace hplain hcontrols
  exact ⟨hplace, hplain, hcontrols⟩

/-- The documents of a template are blocks, whose controls are those of the template, filled. -/
theorem formControls_render {table : List (Char × List Char)} (guards : Guards table)
    {pieces : List (Piece η)} {cs : List (Control (Symbol η))} (h : HasControls pieces cs)
    (texts : η → List Char) :
    IsBlock (render table texts pieces) ∧
      formControls (render table texts pieces) = cs.map (Control.map (fill table texts)) := by
  have hrun := run_fill guards texts (symbols pieces) (.within [])
  rw [formControls, tags_render guards, controls_fill h.plain, h.controls]
  refine ⟨?_, rfl⟩
  rw [IsBlock, render_eq]
  exact (congrArg (fun r => r.1.place) hrun).trans h.place

/-- A hole is read as what fills it. -/
theorem unescape_hole (escapes : Escapes) (texts : η → List Char) (hole : η) :
    escapes.unescape (fill escapes.table texts [.hole hole]) = texts hole := by
  have hfill : fill escapes.table texts [.hole hole] = escape escapes.table (texts hole) :=
    List.flatMap_singleton _ _
  rw [hfill, Escapes.unescape_escape]

end Markup
