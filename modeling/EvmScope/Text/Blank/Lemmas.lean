import Mathlib.Data.List.TakeWhile
import EvmScope.Text.Blank

/-!
# Laws of trimming

What stands between the blanks at the ends of a text does not depend on them, and the text is made up
of it and of blanks.
-/

namespace EvmScope.Text

set_option autoImplicit false

/-- A text of blanks only. -/
def AllBlank (s : List Char) : Prop :=
  ∀ c ∈ s, isBlank c = true

theorem allBlank_nil : AllBlank [] := by
  intro c hc
  cases hc

theorem allBlank_singleton {c : Char} (h : isBlank c = true) : AllBlank [c] := by
  intro d hd
  rwa [List.mem_singleton.1 hd]

theorem AllBlank.reverse {s : List Char} (h : AllBlank s) : AllBlank s.reverse :=
  fun c hc => h c (List.mem_reverse.1 hc)

/-- Blanks in front are dropped before anything else is looked at. -/
theorem dropWhile_isBlank_append {s : List Char} (hs : AllBlank s) (t : List Char) :
    (s ++ t).dropWhile isBlank = t.dropWhile isBlank :=
  List.dropWhile_append_of_pos hs

/-- Blanks in front of a text that begins with something else are all that is dropped. -/
theorem trimLeft_append {front s : List Char} (hfront : AllBlank front) :
    trimLeft (front ++ s) = trimLeft s :=
  dropWhile_isBlank_append hfront s

theorem trimRight_append {s back : List Char} (hback : AllBlank back) :
    trimRight (s ++ back) = trimRight s := by
  rw [trimRight, List.reverse_append, dropWhile_isBlank_append hback.reverse, ← trimRight]

/-- A text that does not begin with a blank keeps its front. -/
theorem trimLeft_eq_self {s : List Char} (h : ∀ c ∈ s.head?, isBlank c = false) :
    trimLeft s = s := by
  cases s with
  | nil => rfl
  | cons c s => rw [trimLeft, List.dropWhile_cons_of_neg (by simp [h c rfl])]

/-- A text that does not end with a blank keeps its end. -/
theorem trimRight_eq_self {s : List Char} (h : ∀ c ∈ s.getLast?, isBlank c = false) :
    trimRight s = s := by
  have hreverse : trimLeft s.reverse = s.reverse := by
    apply trimLeft_eq_self
    rwa [List.head?_reverse]
  rw [trimRight, ← trimLeft, hreverse, List.reverse_reverse]

/-- A text with no blank at either end is left as it is. -/
theorem trim_eq_self {s : List Char} (hfirst : ∀ c ∈ s.head?, isBlank c = false)
    (hlast : ∀ c ∈ s.getLast?, isBlank c = false) : trim s = s := by
  rw [trim, trimLeft_eq_self hfirst, trimRight_eq_self hlast]

theorem trimLeft_eq_nil {s : List Char} (h : AllBlank s) : trimLeft s = [] := by
  rw [← List.append_nil s, trimLeft_append h]
  rfl

/-- Blanks at the ends of a text do not matter to what is left of it. -/
theorem trim_append {front back : List Char} (hfront : AllBlank front) (s : List Char)
    (hback : AllBlank back) : trim (front ++ s ++ back) = trim s := by
  rw [trim, List.append_assoc, trimLeft_append hfront, trim, trimLeft, List.dropWhile_append,
    ← trimLeft, ← trimLeft]
  -- the blanks that are dropped in front may be all of the text
  split
  · next hs =>
    rw [trimLeft_eq_nil hback, List.isEmpty_iff.1 hs]
  · rw [trimRight_append hback]

/-- A text without blanks is what is left when blanks are put at its ends and trimmed away. -/
theorem trim_between {front s back : List Char} (hfront : AllBlank front)
    (hs : ∀ c ∈ s, isBlank c = false) (hback : AllBlank back) : trim (front ++ s ++ back) = s := by
  rw [trim_append hfront s hback]
  apply trim_eq_self
  · intro c hc
    exact hs c (List.mem_of_mem_head? hc)
  · intro c hc
    exact hs c (List.mem_of_mem_getLast? hc)

/-- What is taken away at the front is blank. -/
theorem exists_trimLeft (s : List Char) : ∃ front, AllBlank front ∧ s = front ++ trimLeft s :=
  ⟨s.takeWhile isBlank, fun _ hc => List.mem_takeWhile_imp hc,
    List.takeWhile_append_dropWhile.symm⟩

/-- What is taken away at the end is blank. -/
theorem exists_trimRight (s : List Char) : ∃ back, AllBlank back ∧ s = trimRight s ++ back := by
  obtain ⟨front, hfront, hs⟩ := exists_trimLeft s.reverse
  refine ⟨front.reverse, hfront.reverse, ?_⟩
  rw [trimRight, ← trimLeft, ← List.reverse_append, ← hs, List.reverse_reverse]

/-- A text is what is left of it after trimming, between blanks. -/
theorem exists_trim (s : List Char) :
    ∃ front back, AllBlank front ∧ AllBlank back ∧ s = front ++ trim s ++ back := by
  obtain ⟨front, hfront, hs⟩ := exists_trimLeft s
  obtain ⟨back, hback, htrim⟩ := exists_trimRight (trimLeft s)
  exact ⟨front, back, hfront, hback, by rw [List.append_assoc, trim, ← htrim, ← hs]⟩

theorem trim_trim (s : List Char) : trim (trim s) = trim s := by
  obtain ⟨front, back, hfront, hback, hs⟩ := exists_trim s
  conv => rhs; rw [hs]
  rw [trim_append hfront _ hback]

/-- Taking away blanks never makes a text longer. -/
theorem length_trim_le (s : List Char) : (trim s).length ≤ s.length := by
  obtain ⟨front, back, -, -, hs⟩ := exists_trim s
  conv => rhs; rw [hs]
  simp only [List.length_append]
  omega

/-- There are no blanks at the ends of what is left, or else it could be trimmed again and would be
shorter. -/
theorem eq_nil_of_trim_eq {s front rest back : List Char} (hfront : AllBlank front)
    (hback : AllBlank back) (h : trim s = front ++ rest ++ back) : front = [] ∧ back = [] := by
  have hagain := trim_append hfront rest hback
  rw [← h, trim_trim, h] at hagain
  have hlength := length_trim_le rest
  rw [← hagain, List.length_append, List.length_append] at hlength
  constructor
  · apply List.eq_nil_of_length_eq_zero
    omega
  · apply List.eq_nil_of_length_eq_zero
    omega

/-- What is left of a text does not begin with a blank. -/
theorem isBlank_of_head?_trim {s : List Char} {c : Char} (h : (trim s).head? = some c) :
    isBlank c = false := by
  by_contra hblank
  obtain ⟨rest, hrest⟩ := List.head?_eq_some_iff.1 h
  have hsplit : trim s = [c] ++ rest ++ [] := by rw [hrest, List.append_nil, List.singleton_append]
  have hempty := eq_nil_of_trim_eq (allBlank_singleton (by simpa using hblank)) allBlank_nil hsplit
  cases hempty.1

/-- What is left of a text does not end with a blank. -/
theorem isBlank_of_getLast?_trim {s : List Char} {c : Char} (h : (trim s).getLast? = some c) :
    isBlank c = false := by
  by_contra hblank
  obtain ⟨rest, hrest⟩ := List.getLast?_eq_some_iff.1 h
  have hsplit : trim s = [] ++ rest ++ [c] := by rw [hrest, List.nil_append]
  have hempty := eq_nil_of_trim_eq allBlank_nil (allBlank_singleton (by simpa using hblank)) hsplit
  cases hempty.2

end EvmScope.Text
