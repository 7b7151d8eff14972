import ContentQuery.Text.Fragment
import ContentQuery.Text.Quoted
import Mathlib.Data.List.DropRight

/-!
# Reading over text

The reader of raw fragments passes over a run of characters when it meets no separator in it and
stands afterwards as it stood before. Runs that are passed over can be put side by side, between
quotes and between parentheses; quoted texts and escaped wildcard bodies are such runs, whatever
they hold.

The main statement is that texts which a reader passes over, joined by blanks, can be taken apart
again in one way only.
-/

namespace ContentQuery.Text

/-- A character that a reader of fragments acts on outside quotes. -/
def isStructural (char : Char) : Bool :=
  isBlank char || ['\x27', '\x22', '(', ')', '\\'].contains char

theorem isBlank_eq_false_of_isStructural {char : Char} (notStructural : isStructural char = false) :
    isBlank char = false := by
  rw [isStructural, Bool.or_eq_false_iff] at notStructural
  exact notStructural.1

namespace FragmentState

/-- The state after a run of characters. -/
def scan (state : FragmentState) (chars : List Char) : FragmentState :=
  chars.foldl step state

/-- The state below some open parentheses, outside quotes and escapes. -/
def outside (depth : Nat) : FragmentState :=
  { depth }

/-- The state inside single quotes. -/
def quoted (depth : Nat) : FragmentState :=
  { depth, quote := some '\x27' }

/-- The characters take a reader from one state to another and hold no separator. -/
structure Reaches (start : FragmentState) (chars : List Char) (stop : FragmentState) : Prop where
  scan_eq : start.scan chars = stop
  splits_eq : start.splits chars = false

/-- The characters hold no separator and leave a reader as it stood before. -/
def PassesOver (state : FragmentState) (chars : List Char) : Prop :=
  state.Reaches chars state

variable {start middle stop state : FragmentState} {front back chars : List Char} {char : Char}
  {depth : Nat}

theorem scan_append (state : FragmentState) (front back : List Char) :
    state.scan (front ++ back) = (state.scan front).scan back :=
  List.foldl_append

theorem splits_append (state : FragmentState) (front back : List Char) :
    state.splits (front ++ back) = (state.splits front || (state.scan front).splits back) := by
  induction front generalizing state with
  | nil => rfl
  | cons char front ih => simp [splits, scan, ih, Bool.or_assoc]

theorem Reaches.append (first : start.Reaches front middle) (second : middle.Reaches back stop) :
    start.Reaches (front ++ back) stop := by
  constructor
  · rw [scan_append, first.scan_eq, second.scan_eq]
  · rw [splits_append, first.scan_eq, first.splits_eq, second.splits_eq]
    rfl

theorem reaches_singleton (steps : start.step char = stop)
    (silent : start.separates char = false) : start.Reaches [char] stop :=
  ⟨steps, by simp [splits, silent]⟩

theorem separates_eq_false (notBlank : isBlank char = false) : state.separates char = false := by
  simp [separates, notBlank]

theorem passesOver_nil (state : FragmentState) : state.PassesOver [] :=
  ⟨rfl, rfl⟩

theorem PassesOver.append (first : state.PassesOver front) (second : state.PassesOver back) :
    state.PassesOver (front ++ back) :=
  Reaches.append first second

theorem passesOver_flatMap {write : Char → List Char}
    (each : ∀ char ∈ chars, state.PassesOver (write char)) :
    state.PassesOver (chars.flatMap write) := by
  induction chars with
  | nil => exact passesOver_nil state
  | cons char chars ih =>
      rw [List.flatMap_cons]
      rcases List.forall_mem_cons.mp each with ⟨head, tail⟩
      exact head.append (ih tail)

/-! ### Characters -/

theorem passesOver_singleton (plain : isStructural char = false) :
    (outside depth).PassesOver [char] := by
  simp only [isStructural, Bool.or_eq_false_iff, List.contains_eq_mem, List.mem_cons,
    List.not_mem_nil, or_false, decide_eq_false_iff_not, not_or] at plain
  rcases plain with ⟨notBlank, notQuote, notDoubleQuote, notOpening, notClosing, notBackslash⟩
  apply reaches_singleton
  · simp [outside, step, notQuote, notDoubleQuote, notOpening, notClosing, notBackslash]
  · exact separates_eq_false notBlank

theorem passesOver_of_plain (plain : ∀ char ∈ chars, isStructural char = false) :
    (outside depth).PassesOver chars := by
  rw [← List.flatMap_singleton' chars]
  exact passesOver_flatMap fun char charMem => passesOver_singleton (plain char charMem)

/-- A backslash takes the character after it along. -/
theorem passesOver_escape (depth : Nat) (quote : Option Char) (char : Char) :
    (FragmentState.mk depth quote false).PassesOver ['\\', char] := by
  have begins : (FragmentState.mk depth quote false).Reaches ['\\'] ⟨depth, quote, true⟩ :=
    reaches_singleton rfl (separates_eq_false (by decide))
  have ends : (FragmentState.mk depth quote true).Reaches [char] ⟨depth, quote, false⟩ :=
    reaches_singleton (by simp [step]) (by simp [separates])
  exact begins.append ends

/-- Inside parentheses, a blank separates nothing. -/
theorem passesOver_blank (depth : Nat) : (outside (depth + 1)).PassesOver [' '] :=
  reaches_singleton rfl rfl

/-! ### Quotes and parentheses -/

/-- Inside quotes, a reader acts on nothing but the closing quote and a backslash. -/
theorem passesOver_quoted (notQuote : char ≠ '\x27') (notBackslash : char ≠ '\\') :
    (quoted depth).PassesOver [char] :=
  reaches_singleton (by simp [quoted, step, notQuote, notBackslash]) (by simp [quoted, separates])

theorem passesOver_quotes (inside : (quoted depth).PassesOver chars) :
    (outside depth).PassesOver ('\x27' :: chars ++ ['\x27']) := by
  have opens : (outside depth).Reaches ['\x27'] (quoted depth) :=
    reaches_singleton rfl (separates_eq_false (by decide))
  have closes : (quoted depth).Reaches ['\x27'] (outside depth) := reaches_singleton rfl rfl
  exact (opens.append inside).append closes

theorem passesOver_parentheses (inside : (outside (depth + 1)).PassesOver chars) :
    (outside depth).PassesOver ('(' :: chars ++ [')']) := by
  have opens : (outside depth).Reaches ['('] (outside (depth + 1)) :=
    reaches_singleton rfl (separates_eq_false (by decide))
  have closes : (outside (depth + 1)).Reaches [')'] (outside depth) := reaches_singleton rfl rfl
  exact (opens.append inside).append closes

/-! ### Literals -/

theorem passesOver_escapeQuoted (depth : Nat) (char : Char) :
    (quoted depth).PassesOver (escapeQuoted char) := by
  simp only [escapeQuoted]
  split
  case isTrue => exact passesOver_escape depth (some '\x27') char
  case isFalse ordinary =>
      rw [not_or] at ordinary
      exact passesOver_quoted ordinary.1 ordinary.2

theorem isSpecial_of_isStructural (structural : isStructural char = true) :
    isSpecial char = true := by
  simp only [isStructural, isSpecial, reservedChars, Bool.or_eq_true, List.contains_eq_mem,
    List.mem_cons, List.not_mem_nil, or_false, decide_eq_true_eq] at structural ⊢
  tauto

theorem isStructural_eq_false (ordinary : isSpecial char = false) : isStructural char = false := by
  cases structural : isStructural char with
  | false => rfl
  | true => simp [isSpecial_of_isStructural structural] at ordinary

theorem isSpecial_eq_false_of_bare (bare : ¬(chars.isEmpty || needsQuotes chars) = true)
    (charMem : char ∈ chars) : isSpecial char = false := by
  simp only [needsQuotes, Bool.or_eq_true, not_or, List.any_eq_true, not_exists, not_and,
    Bool.not_eq_true] at bare
  exact bare.2.2 char charMem

/-- A reader passes over a written text, whatever the text is. -/
theorem passesOver_quoteChars (depth : Nat) (chars : List Char) :
    (outside depth).PassesOver (quoteChars chars) := by
  simp only [quoteChars]
  split
  case isTrue =>
      apply passesOver_quotes
      exact passesOver_flatMap fun char _ => passesOver_escapeQuoted depth char
  case isFalse bare =>
      apply passesOver_of_plain
      intro char charMem
      exact isStructural_eq_false (isSpecial_eq_false_of_bare bare charMem)

theorem passesOver_escapeSpecial (depth : Nat) (char : Char) :
    (outside depth).PassesOver (escapeSpecial char) := by
  simp only [escapeSpecial]
  split
  case isTrue => exact passesOver_escape depth none char
  case isFalse ordinary =>
      exact passesOver_singleton (isStructural_eq_false (Bool.not_eq_true _ ▸ ordinary))

/-- A reader passes over the body of a pattern, whatever its fixed text is. -/
theorem passesOver_wildcardChars (depth : Nat) (chars : List Char) :
    (outside depth).PassesOver (wildcardChars chars) := by
  cases chars with
  | nil => exact passesOver_nil _
  | cons first rest =>
      have behind : (outside depth).PassesOver (rest.flatMap escapeSpecial) :=
        passesOver_flatMap fun char _ => passesOver_escapeSpecial depth char
      refine PassesOver.append ?_ behind
      split
      case isTrue => exact passesOver_escape depth none first
      case isFalse => exact passesOver_escapeSpecial depth first

/-! ### Runs joined by blanks -/

/-- A blank is a separator where a reader stands outside quotes and parentheses. -/
theorem splits_append_blank (scans : (outside 0).scan front = outside 0)
    (blank : isBlank char = true)
    (back : List Char) : (outside 0).splits (front ++ char :: back) = true := by
  have separates : (outside 0).separates char = true := by
    simp [FragmentState.separates, outside, blank]
  rw [splits_append, scans]
  simp [splits, separates]

theorem not_passesOver_append_blank (passes : (outside 0).PassesOver front) :
    ¬(outside 0).PassesOver (front ++ ' ' :: back) := by
  intro whole
  have splits := splits_append_blank passes.scan_eq (show isBlank ' ' = true by decide) back
  rw [whole.splits_eq] at splits
  cases splits

/-- Characters that are passed over end at the first separator. -/
theorem append_blank_inj {front' back' : List Char}
    (passes : (outside 0).PassesOver front) (passes' : (outside 0).PassesOver front')
    (same : front ++ ' ' :: back = front' ++ ' ' :: back') : front = front' ∧ back = back' := by
  rcases List.append_eq_append_iff.mp same with ⟨gap, longer, rest⟩ | ⟨gap, longer, rest⟩
  · cases gap with
    | nil => simpa [eq_comm] using And.intro longer rest
    | cons char gap =>
        rcases List.cons.inj rest with ⟨rfl, _⟩
        exact absurd (longer ▸ passes') (not_passesOver_append_blank passes)
  · cases gap with
    | nil => simpa [eq_comm] using And.intro longer rest
    | cons char gap =>
        rcases List.cons.inj rest with ⟨rfl, _⟩
        exact absurd (longer ▸ passes) (not_passesOver_append_blank passes')

/-- Runs that are passed over, joined by blanks, can be taken apart in one way only. -/
theorem intercalate_blank_inj {left right : List (List Char)}
    (leftPass : ∀ run ∈ left, run ≠ [] ∧ (outside 0).PassesOver run)
    (rightPass : ∀ run ∈ right, run ≠ [] ∧ (outside 0).PassesOver run)
    (same : [' '].intercalate left = [' '].intercalate right) : left = right := by
  induction left generalizing right with
  | nil =>
      cases right with
      | nil => rfl
      | cons first rest => cases rest <;> simp_all
  | cons first rest ih =>
      rcases List.forall_mem_cons.mp leftPass with ⟨⟨firstNe, firstPass⟩, restPass⟩
      cases right with
      | nil => cases rest <;> simp_all
      | cons first' rest' =>
          rcases List.forall_mem_cons.mp rightPass with ⟨⟨_, firstPass'⟩, restPass'⟩
          -- one run alone is passed over, so it is no join of two or more
          cases rest with
          | nil =>
              cases rest' with
              | nil => simpa using same
              | cons second' rest' =>
                  simp only [List.intercalate_singleton, List.intercalate_cons_cons,
                    List.append_assoc, List.singleton_append] at same
                  exact absurd (same ▸ firstPass) (not_passesOver_append_blank firstPass')
          | cons second rest =>
              cases rest' with
              | nil =>
                  simp only [List.intercalate_singleton, List.intercalate_cons_cons,
                    List.append_assoc, List.singleton_append] at same
                  exact absurd (same ▸ firstPass') (not_passesOver_append_blank firstPass)
              | cons second' rest' =>
                  simp only [List.intercalate_cons_cons, List.append_assoc,
                    List.singleton_append] at same
                  rcases append_blank_inj firstPass firstPass' same with ⟨rfl, sameRest⟩
                  rw [ih restPass restPass' sameRest]

end FragmentState

open FragmentState

/-! ### Trimmed fragments -/

variable {front back : List Char} {char : Char}

theorem rdropWhile_append_cons {property : Char → Bool} (keeps : property char = false)
    (front back : List Char) :
    (front ++ char :: back).rdropWhile property = front ++ char :: back.rdropWhile property := by
  induction back using List.reverseRecOn with
  | nil => simp [keeps]
  | append_singleton back last ih =>
      rw [← List.cons_append, ← List.append_assoc, List.rdropWhile_concat, List.rdropWhile_concat]
      split
      · exact ih
      · simp

theorem trimChars_cons (notBlank : isBlank char = false) (back : List Char) :
    trimChars (char :: back) = char :: back.rdropWhile isBlank := by
  rw [trimChars, List.dropWhile_cons_of_neg (by simp [notBlank])]
  exact rdropWhile_append_cons notBlank [] back

theorem trimChars_blanks_append {blanks : List Char}
    (blank : ∀ char ∈ blanks, isBlank char = true) (chars : List Char) :
    trimChars (blanks ++ chars) = trimChars chars := by
  rw [trimChars, List.dropWhile_append_of_pos blank, ← trimChars]

theorem trimChars_append_blanks {blanks : List Char}
    (blank : ∀ char ∈ blanks, isBlank char = true) (chars : List Char) :
    trimChars (chars ++ blanks) = trimChars chars := by
  rw [trimChars, List.dropWhile_append]
  split
  case isTrue empty =>
      rw [List.dropWhile_eq_nil_iff.mpr blank, trimChars, List.isEmpty_iff.mp empty]
  case isFalse =>
      rw [List.reverse_append, List.dropWhile_append_of_pos (by simpa using blank), ← trimChars]

/-- A character that gives a fragment a sign. -/
def isSign (char : Char) : Bool :=
  char == '+' || char == '-'

/-- The text does not open with a sign. -/
def IsUnsigned (text : String) : Prop :=
  ∀ char ∈ text.toList.head?, isSign char = false

instance (text : String) : Decidable (IsUnsigned text) :=
  @Option.decidableForallMem Char _ (fun _ => inferInstance) _

theorem isCompositeChars_cons (char : Char) (back : List Char) :
    isCompositeChars (char :: back) = (isSign char || (outside 0).splits (char :: back)) := by
  simp [isCompositeChars, isSign, outside]

/-- Trimming takes no separator from a fragment that has one before another clause. -/
theorem isCompositeChars_of_separator {first next : Char} (notBlank : isBlank first = false)
    (scans : (outside 0).scan (first :: front) = outside 0) (blank : isBlank char = true)
    (nextMem : next ∈ back) (nextNotBlank : isBlank next = false) :
    isCompositeChars (trimChars (first :: front ++ char :: back)) = true := by
  rcases List.append_of_mem nextMem with ⟨between, rest, rfl⟩
  have split := splits_append_blank scans blank (between ++ next :: rest.rdropWhile isBlank)
  have kept : (front ++ char :: (between ++ next :: rest)).rdropWhile isBlank =
      front ++ char :: (between ++ next :: rest.rdropWhile isBlank) := by
    simpa using rdropWhile_append_cons nextNotBlank (front ++ char :: between) rest
  rw [List.cons_append] at split ⊢
  rw [trimChars_cons notBlank, kept, isCompositeChars_cons, split, Bool.or_true]

/-- A fragment that is passed over is one clause, and so is what trimming leaves of it. -/
theorem isCompositeChars_eq_false (notBlank : isBlank char = false) (noSign : isSign char = false)
    (passes : (outside 0).PassesOver (char :: back)) :
    isCompositeChars (trimChars (char :: back)) = false := by
  rcases List.rdropWhile_prefix isBlank back with ⟨blanks, whole⟩
  have unsplit := passes.splits_eq
  rw [← whole, ← List.cons_append, splits_append, Bool.or_eq_false_iff] at unsplit
  rw [trimChars_cons notBlank, isCompositeChars_cons, noSign, unsplit.1]
  rfl

/-! ### Plain texts -/

/-- No character of the text means anything to a reader of fragments. -/
def IsPlain (text : String) : Prop :=
  ∀ char ∈ text.toList, isStructural char = false

-- Instance search could also run through all characters there are.
instance (text : String) : Decidable (IsPlain text) :=
  List.decidableBAll _ _

theorem IsPlain.append {front back : String} (first : IsPlain front) (second : IsPlain back) :
    IsPlain (front ++ back) := by
  intro char charMem
  rw [String.toList_append] at charMem
  rcases List.mem_append.mp charMem with charMem | charMem
  · exact first char charMem
  · exact second char charMem

theorem IsPlain.passesOver {text : String} (plain : IsPlain text) (depth : Nat) :
    (outside depth).PassesOver text.toList :=
  passesOver_of_plain plain

/-! ### Solid texts -/

/-- A text that stands in query text as one piece, at any depth. -/
structure IsSolid (text : String) : Prop where
  ne_empty : text ≠ ""
  passes : ∀ depth, (outside depth).PassesOver text.toList

theorem IsSolid.prepend {front back : String} (plain : IsPlain front) (solid : IsSolid back) :
    IsSolid (front ++ back) := by
  constructor
  · simp [solid.ne_empty]
  · intro depth
    rw [String.toList_append]
    exact (plain.passesOver depth).append (solid.passes depth)

/-- Inside parentheses, solid texts joined by blanks are passed over. -/
theorem passesOver_intercalate {texts : List String} (solid : ∀ text ∈ texts, IsSolid text)
    (depth : Nat) : (outside (depth + 1)).PassesOver (" ".intercalate texts).toList := by
  induction texts with
  | nil => exact passesOver_nil _
  | cons first rest ih =>
      rcases List.forall_mem_cons.mp solid with ⟨firstSolid, restSolid⟩
      cases rest with
      | nil =>
          rw [String.intercalate_singleton]
          exact firstSolid.passes (depth + 1)
      | cons second rest =>
          rw [String.intercalate_cons_cons, String.toList_append, String.toList_append]
          exact ((firstSolid.passes (depth + 1)).append (passesOver_blank depth)).append
            (ih restSolid)

theorem isSolid_parentheses {text : String}
    (inside : ∀ depth, (outside (depth + 1)).PassesOver text.toList) :
    IsSolid ("(" ++ text ++ ")") := by
  constructor
  · simp
  · intro depth
    rw [String.toList_append, String.toList_append]
    exact passesOver_parentheses (inside depth)

theorem head?_intercalate {first : String} {char : Char} (opens : char ∈ first.toList.head?)
    (rest : List String) : char ∈ (" ".intercalate (first :: rest)).toList.head? := by
  rcases List.head?_eq_some_iff.mp opens with ⟨tail, whole⟩
  cases rest <;> simp [whole]

/-- Solid texts, joined by blanks, can be taken apart in one way only. -/
theorem intercalate_inj_of_isSolid {left right : List String}
    (leftSolid : ∀ text ∈ left, IsSolid text) (rightSolid : ∀ text ∈ right, IsSolid text)
    (same : " ".intercalate left = " ".intercalate right) : left = right := by
  have charsSame := congrArg String.toList same
  rw [String.toList_intercalate, String.toList_intercalate] at charsSame
  have runs {texts : List String} (solid : ∀ text ∈ texts, IsSolid text) :
      ∀ run ∈ texts.map String.toList, run ≠ [] ∧ (outside 0).PassesOver run := by
    intro run runMem
    rcases List.mem_map.mp runMem with ⟨text, textMem, rfl⟩
    exact ⟨by simpa using (solid text textMem).ne_empty, (solid text textMem).passes 0⟩
  have runsSame := intercalate_blank_inj (runs leftSolid) (runs rightSolid) charsSame
  exact List.map_injective_iff.mpr (fun _ _ => String.toList_injective) runsSame

end ContentQuery.Text
