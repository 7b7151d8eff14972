import ContentQuery.Proofs.Text.Fragment
import ContentQuery.Term.Text

/-!
# Closed fragments

A fragment is closed if a reader that is outside of everything is so again behind it, and has met no
closing parenthesis without a partner. Such a fragment is read in the same way wherever it stands:
with more parentheses around it, only the depths differ.

The main statement says how closed fragments are grouped: in parentheses they are one clause, side
by side they are several, and blanks around a fragment do not count.
-/

namespace ContentQuery.Text

namespace FragmentState

variable {start middle stop state : FragmentState} {front back chars : List Char} {char : Char}
  {depth : Nat}

/-- The character is a closing parenthesis without a partner. -/
def strays (state : FragmentState) (char : Char) : Bool :=
  !state.escaped && state.quote.isNone && state.depth == 0 && char == ')'

/-- Some closing parenthesis of the fragment has no partner. -/
def overcloses (state : FragmentState) : List Char → Bool
  | [] => false
  | char :: rest => state.strays char || (state.step char).overcloses rest

/-- The characters take a reader from one state to another, and each parenthesis that they close was
open. -/
structure Balances (start : FragmentState) (chars : List Char) (stop : FragmentState) : Prop where
  scan_eq : start.scan chars = stop
  overcloses_eq : start.overcloses chars = false

instance : Decidable (start.Balances chars stop) :=
  decidable_of_iff (start.scan chars = stop ∧ start.overcloses chars = false)
    ⟨fun both => ⟨both.1, both.2⟩, fun balances => ⟨balances.1, balances.2⟩⟩

theorem overcloses_append (state : FragmentState) (front back : List Char) :
    state.overcloses (front ++ back) =
      (state.overcloses front || (state.scan front).overcloses back) := by
  induction front generalizing state with
  | nil => rfl
  | cons char front ih => simp [overcloses, scan, ih, Bool.or_assoc]

theorem Balances.append (first : start.Balances front middle) (second : middle.Balances back stop) :
    start.Balances (front ++ back) stop := by
  constructor
  · rw [scan_append, first.scan_eq, second.scan_eq]
  · rw [overcloses_append, first.scan_eq, first.overcloses_eq, second.overcloses_eq]
    rfl

theorem balances_singleton (steps : start.step char = stop)
    (partnered : start.strays char = false) :
    start.Balances [char] stop :=
  ⟨steps, by simp [overcloses, partnered]⟩

/-! ### More parentheses around a fragment -/

/-- The state with more parentheses open around it. -/
def deepen (depth : Nat) (state : FragmentState) : FragmentState :=
  { state with depth := state.depth + depth }

theorem step_deepen (partnered : state.strays char = false) :
    (state.deepen depth).step char = (state.step char).deepen depth := by
  rcases state with ⟨opened, quote, escaped⟩
  cases escaped with
  | true => rfl
  | false =>
      by_cases isBackslash : char = '\\'
      · simp [step, deepen, isBackslash]
      · cases quote with
        | some opening =>
            by_cases closes : char = opening
            · subst closes
              simp [step, deepen, isBackslash]
            · simp [step, deepen, isBackslash, closes]
        | none =>
            by_cases isClosing : char = ')'
            · -- without a partner it would be passed over here, but not at the greater depth
              have partner : opened ≠ 0 := by simpa [strays, isClosing] using partnered
              simp [step, deepen, isClosing]
              omega
            · by_cases isOpening : char = '('
              · simp [step, deepen, isOpening, Nat.add_right_comm]
              · by_cases isQuote : char = '\x27' ∨ char = '\x22' <;>
                  simp [step, deepen, isBackslash, isClosing, isOpening, isQuote]

theorem strays_deepen (partnered : state.strays char = false) :
    (state.deepen depth).strays char = false := by
  rw [← Bool.not_eq_true] at partnered ⊢
  simp only [strays, deepen, Bool.and_eq_true, beq_iff_eq] at partnered ⊢
  rintro ⟨⟨free, atTop⟩, closing⟩
  exact partnered ⟨⟨free, by omega⟩, closing⟩

theorem separates_deepen_succ (state : FragmentState) (char : Char) :
    (state.deepen (depth + 1)).separates char = false := by
  simp [separates, deepen]

theorem Balances.deepen (balances : start.Balances chars stop) (depth : Nat) :
    (start.deepen depth).Balances chars (stop.deepen depth) := by
  rcases balances with ⟨rfl, partnered⟩
  induction chars generalizing start with
  | nil => exact ⟨rfl, rfl⟩
  | cons char rest ih =>
      rw [overcloses, Bool.or_eq_false_iff] at partnered
      have first : (start.deepen depth).Balances [char] ((start.step char).deepen depth) :=
        balances_singleton (step_deepen partnered.1) (strays_deepen partnered.1)
      exact first.append (ih partnered.2)

theorem Balances.reaches_deepen (balances : start.Balances chars stop) (depth : Nat) :
    (start.deepen (depth + 1)).Reaches chars (stop.deepen (depth + 1)) := by
  refine ⟨(balances.deepen (depth + 1)).scan_eq, ?_⟩
  rcases balances with ⟨-, partnered⟩
  induction chars generalizing start with
  | nil => rfl
  | cons char rest ih =>
      rw [overcloses, Bool.or_eq_false_iff] at partnered
      rw [splits, separates_deepen_succ, step_deepen partnered.1]
      exact ih partnered.2

/-! ### Blanks -/

theorem step_blank (blank : isBlank char = true) : (outside depth).step char = outside depth := by
  have ordinary : char ≠ '\\' ∧ char ≠ '\x27' ∧ char ≠ '\x22' ∧ char ≠ '(' ∧ char ≠ ')' := by
    refine ⟨?_, ?_, ?_, ?_, ?_⟩
    all_goals
      rintro rfl
      exact absurd blank (by decide)
  simp [outside, step, ordinary]

theorem scan_blanks (blanks : ∀ char ∈ chars, isBlank char = true) :
    (outside depth).scan chars = outside depth := by
  induction chars with
  | nil => rfl
  | cons char rest ih =>
      rcases List.forall_mem_cons.mp blanks with ⟨blank, restBlank⟩
      rw [scan, List.foldl_cons, step_blank blank]
      exact ih restBlank

theorem balances_blank (blank : isBlank char = true) :
    (outside depth).Balances [char] (outside depth) := by
  apply balances_singleton (step_blank blank)
  rw [← Bool.not_eq_true]
  simp only [strays, Bool.and_eq_true, beq_iff_eq]
  rintro ⟨_, rfl⟩
  exact absurd blank (by decide)

end FragmentState

open FragmentState

/-- A reader passes over the text from outside of everything to outside of everything, and each
parenthesis that is closed was open. -/
def IsClosed (text : String) : Prop :=
  (outside 0).Balances text.toList (outside 0)

instance (text : String) : Decidable (IsClosed text) :=
  inferInstanceAs (Decidable (Balances _ _ _))

namespace IsClosed

variable {text first second : String} {blank : Char}

theorem parentheses (closed : IsClosed text) : IsClosed ("(" ++ text ++ ")") := by
  have opens : (outside 0).Balances ['('] (outside 1) := balances_singleton rfl rfl
  have closes : (outside 1).Balances [')'] (outside 0) := balances_singleton rfl rfl
  rw [IsClosed, String.toList_append, String.toList_append]
  exact (opens.append (closed.deepen 1)).append closes

theorem append_blank (firstClosed : IsClosed first) (separator : isBlank blank = true)
    (secondClosed : IsClosed second) : IsClosed (first ++ String.singleton blank ++ second) := by
  rw [IsClosed, String.toList_append, String.toList_append, String.toList_singleton]
  exact (Balances.append firstClosed (balances_blank separator)).append secondClosed

end IsClosed

/-! ### Grouping -/

theorem exists_blanks_append {text : String} (notBlank : isBlankText text = false) :
    ∃ blanks char rest, text.toList = blanks ++ char :: rest ∧ isBlank char = false ∧
      ∀ before ∈ blanks, isBlank before = true := by
  have found : (text.toList.find? fun char => !isBlank char).isSome := by
    simpa [isBlankText] using notBlank
  rcases Option.isSome_iff_exists.mp found with ⟨char, isFound⟩
  rcases List.find?_eq_some_iff_append.mp isFound with ⟨charNotBlank, blanks, rest, whole, blank⟩
  exact ⟨blanks, char, rest, whole, by simpa using charNotBlank, by simpa using blank⟩

/-- A closed fragment in parentheses is a single clause. -/
theorem isComposite_parentheses {text : String} (closed : IsClosed text) :
    isComposite ("(" ++ text ++ ")") = false := by
  have inside : (outside 1).PassesOver text.toList := closed.reaches_deepen 0
  have passes := passesOver_parentheses inside
  rw [isComposite, String.toList_append, String.toList_append]
  exact isCompositeChars_eq_false (by decide) (by decide) passes

/-- A closing parenthesis without a partner takes the one in front, and the blank behind it
separates. -/
example : ¬IsClosed "Id:1) Id:2" ∧ isComposite "(Id:1) Id:2)" = true := by decide

/-- Behind a closed fragment, a blank is a separator. -/
theorem isComposite_append_blank {first second : String} {blank : Char} (closed : IsClosed first)
    (firstNotBlank : isBlankText first = false) (separator : isBlank blank = true)
    (secondNotBlank : isBlankText second = false) :
    isComposite (first ++ String.singleton blank ++ second) = true := by
  rcases exists_blanks_append firstNotBlank with ⟨blanks, char, rest, whole, charNotBlank, before⟩
  rcases exists_blanks_append secondNotBlank with ⟨gap, next, back, secondWhole, nextNotBlank, _⟩
  have scans : (outside 0).scan (char :: rest) = outside 0 := by
    have scansAll := closed.scan_eq
    rwa [whole, scan_append, scan_blanks before] at scansAll
  have nextMem : next ∈ second.toList := by simp [secondWhole]
  have kept := isCompositeChars_of_separator charNotBlank scans separator nextMem nextNotBlank
  rw [isComposite, String.toList_append, String.toList_append, String.toList_singleton, whole,
    List.append_assoc, List.append_assoc, trimChars_blanks_append before]
  exact kept

theorem isComposite_blanks {blanks : String} (blank : isBlankText blanks = true) (text : String) :
    isComposite (blanks ++ text) = isComposite text ∧
      isComposite (text ++ blanks) = isComposite text := by
  have each : ∀ char ∈ blanks.toList, isBlank char = true := List.all_eq_true.mp blank
  constructor
  · rw [isComposite, String.toList_append, trimChars_blanks_append each, ← isComposite]
  · rw [isComposite, String.toList_append, trimChars_append_blanks each, ← isComposite]

/-- In parentheses, a closed fragment is closed and a single clause. Two closed fragments that are
not blank are closed and several clauses with any blank between them. Blanks around a fragment do
not change what it is. -/
theorem isCompositeFragment_of_isClosed :
    (∀ text, IsClosed text →
      IsClosed ("(" ++ text ++ ")") ∧ (Term.raw ("(" ++ text ++ ")")).isCompositeFragment = false) ∧
    (∀ first second blank, IsClosed first → IsClosed second → isBlankText first = false →
      isBlankText second = false → isBlank blank = true →
      IsClosed (first ++ String.singleton blank ++ second) ∧
      (Term.raw (first ++ String.singleton blank ++ second)).isCompositeFragment = true) ∧
    ∀ text blanks, isBlankText blanks = true →
      (Term.raw (blanks ++ text)).isCompositeFragment = (Term.raw text).isCompositeFragment ∧
      (Term.raw (text ++ blanks)).isCompositeFragment = (Term.raw text).isCompositeFragment := by
  refine ⟨?_, ?_, ?_⟩
  · intro text closed
    exact ⟨closed.parentheses, isComposite_parentheses closed⟩
  · intro first second blank firstClosed secondClosed firstNotBlank secondNotBlank separator
    constructor
    · exact firstClosed.append_blank separator secondClosed
    · exact isComposite_append_blank firstClosed firstNotBlank separator secondNotBlank
  · intro text blanks blank
    exact isComposite_blanks blank text

/-- Quotes, escapes and signs in two closed fragments, with a no-break space between them. The
second loses an escaped blank at its end when it is trimmed. -/
theorem isCompositeFragment_of_isClosed_quoted :
    let first := "+Name:'(a \\' b' (Id:1 -(Id:2 \\)))"
    let second := "Title:\x22it's (\x22\\ "
    let noBreak := Char.ofNat 0xA0
    (IsClosed first ∧ IsClosed second) ∧
    (IsClosed ("(" ++ first ++ ")") ∧
        (Term.raw ("(" ++ first ++ ")")).isCompositeFragment = false) ∧
    (IsClosed (first ++ String.singleton noBreak ++ second) ∧
      (Term.raw (first ++ String.singleton noBreak ++ second)).isCompositeFragment = true) ∧
    (Term.raw (" \t" ++ second)).isCompositeFragment = (Term.raw second).isCompositeFragment ∧
    (Term.raw (second ++ " \t")).isCompositeFragment = (Term.raw second).isCompositeFragment := by
  intro first second noBreak
  rcases isCompositeFragment_of_isClosed with ⟨inParentheses, sideBySide, surrounded⟩
  have firstClosed : IsClosed first := by decide
  have secondClosed : IsClosed second := by decide
  have separates := sideBySide first second noBreak firstClosed secondClosed (by decide) (by decide)
    (by decide)
  exact ⟨⟨firstClosed, secondClosed⟩, inParentheses first firstClosed, separates,
    surrounded second " \t" (by decide)⟩

end ContentQuery.Text
