import EvmScope.Proofs.WrittenOptions

/-!
# Spellings of flags

Command lines that differ only in the dashes of some flags mean the same. `canonical` picks one command
line of each such class: two command lines have the same canonical form exactly if they do not differ in
more than that. What stands behind the terminator is left alone, and so is the terminator itself.
-/

namespace EvmScope.CommandLine

set_option autoImplicit false

/-- The first word is a flag with one dash, and the second is the same flag with two. -/
def Abbreviates (v w : Arg) : Prop :=
  ∃ flag, flagName flag ∈ singleDashNames ∧ v = '-' :: flag ∧ w = '-' :: '-' :: flag

/-- Two words are one flag, with one dash here and with two there. -/
def Respelled (v w : Arg) : Prop :=
  Abbreviates v w ∨ Abbreviates w v

/-- Two command lines have the same words in the same places, but for the dashes of flags in front of the
first terminator. -/
structure Equivalent (args args' : List Arg) : Prop where
  length_eq : args.length = args'.length
  words : ∀ (n : Nat) (v w : Arg), args[n]? = some v → args'[n]? = some w →
    v = w ∨ n < args.idxOf terminator ∧ Respelled v w

section Words

variable {v w : Arg}

/-- What follows the equals sign has no say in whether one dash is enough. -/
theorem allowsSingleDash_iff {flag : Arg} :
    allowsSingleDash flag = true ↔ flagName flag ∈ singleDashNames := by
  simp [allowsSingleDash]

/-- A flag with one dash gets a second one, and a flag with two stays as it is. -/
theorem Abbreviates.respell_eq (h : Abbreviates v w) : respell v = w ∧ respell w = w := by
  obtain ⟨flag, hname, rfl, rfl⟩ := h
  constructor
  · rw [respell_dash, if_pos (allowsSingleDash_iff.2 hname)]
  · rw [respell_dash, Field.not_allowsSingleDash_dash]
    rfl

/-- What is changed at all gets a second dash. -/
theorem respell_cases (v : Arg) : respell v = v ∨ Abbreviates v (respell v) := by
  unfold respell
  split
  · next flag =>
    split
    · next hallows => exact .inr ⟨flag, allowsSingleDash_iff.1 hallows, rfl, rfl⟩
    · exact .inl rfl
  · exact .inl rfl

/-- A word with its dash added is left alone. -/
theorem respell_respell (v : Arg) : respell (respell v) = respell v := by
  rcases respell_cases v with h | h
  · rw [h, h]
  · exact h.respell_eq.2

/-- Words are respelled alike exactly if they differ in the dashes of a flag only. -/
theorem respell_eq_respell_iff : respell v = respell w ↔ v = w ∨ Respelled v w := by
  constructor
  · intro h
    rcases respell_cases v with hv | hv <;> rcases respell_cases w with hw | hw
    · rw [hv, hw] at h
      exact .inl h
    · rw [← h, hv] at hw
      exact .inr (.inr hw)
    · rw [h, hw] at hv
      exact .inr (.inl hv)
    · -- two flags with one dash that have become the same
      obtain ⟨flag, -, hv, hv'⟩ := hv
      obtain ⟨flag', -, hw, hw'⟩ := hw
      have hflag : flag = flag' := by simpa [hv', hw'] using h
      exact .inl (by rw [hv, hw, hflag])
  · rintro (rfl | h | h)
    · rfl
    · rw [h.respell_eq.1, h.respell_eq.2]
    · rw [h.respell_eq.1, h.respell_eq.2]

theorem respell_terminator : respell terminator = terminator := rfl

/-- The terminator is no flag. -/
theorem not_respelled_terminator (v : Arg) : ¬Respelled v terminator := by
  rintro (⟨flag, hname, -, hflag⟩ | ⟨flag, hname, hflag, -⟩)
  · obtain rfl : flag = [] := by simpa [terminator] using hflag.symm
    exact absurd hname (by decide)
  · obtain rfl : flag = ['-'] := by simpa [terminator] using hflag.symm
    exact absurd hname (by decide)

/-- Adding a dash makes no other word the one behind which nothing is a flag. -/
theorem respell_eq_terminator_iff : respell v = terminator ↔ v = terminator := by
  rw [← respell_terminator, respell_eq_respell_iff]
  simp [not_respelled_terminator, respell_terminator]

/-- A word with a dash calls no command. -/
theorem ofName?_of_respelled (h : Respelled v w) : Command.ofName? v = Command.ofName? w := by
  rcases h with ⟨flag, -, rfl, rfl⟩ | ⟨flag, -, rfl, rfl⟩ <;> rfl

end Words

section Lines

variable {v w : Arg} {args args' : List Arg}

theorem canonical_terminator_cons (args : List Arg) :
    canonical (terminator :: args) = terminator :: args := by
  rw [canonical, if_pos rfl]

theorem canonical_cons (hv : v ≠ terminator) (args : List Arg) :
    canonical (v :: args) = respell v :: canonical args := by
  rw [canonical, if_neg hv]

/-- From the terminator on, nothing may differ. -/
theorem equivalent_terminator_cons :
    Equivalent (terminator :: args) (w :: args') ↔ terminator = w ∧ args = args' := by
  constructor
  · intro h
    have hsame : terminator :: args = w :: args' := by
      apply List.ext_getElem h.length_eq
      intro n hn hn'
      have hword := h.words n _ _ (List.getElem?_eq_getElem hn) (List.getElem?_eq_getElem hn')
      simpa using hword
    exact List.cons.inj hsame
  · rintro ⟨rfl, rfl⟩
    refine ⟨rfl, fun n v w hv hw => .inl ?_⟩
    exact Option.some.inj (hv.symm.trans hw)

/-- In front of the terminator words may differ in their dashes. -/
theorem equivalent_cons (hv : v ≠ terminator) :
    Equivalent (v :: args) (w :: args') ↔ (v = w ∨ Respelled v w) ∧ Equivalent args args' := by
  have hplace : (v :: args).idxOf terminator = args.idxOf terminator + 1 := by
    rw [List.idxOf_cons, beq_eq_false_iff_ne.2 hv, cond_false]
  constructor
  · intro h
    refine ⟨?_, by simpa using h.length_eq, fun n v' w' hv' hw' => ?_⟩
    · exact (h.words 0 v w rfl rfl).imp_right And.right
    · have hword := h.words (n + 1) v' w' hv' hw'
      rwa [hplace, Nat.add_lt_add_iff_right] at hword
  · rintro ⟨hfirst, hrest⟩
    refine ⟨by simp [hrest.length_eq], fun n v' w' hv' hw' => ?_⟩
    rw [hplace]
    cases n with
    | zero =>
      obtain rfl := Option.some.inj hv'
      obtain rfl := Option.some.inj hw'
      exact hfirst.imp_right fun h => ⟨Nat.succ_pos _, h⟩
    | succ n =>
      rw [Nat.add_lt_add_iff_right]
      exact hrest.words n v' w' hv' hw'

/-- Words are changed one by one; none is added or taken away. -/
theorem length_canonical (args : List Arg) : (canonical args).length = args.length := by
  fun_induction canonical args with
  | case1 => rfl
  | case2 => rfl
  | case3 arg args hne ih => rw [List.length_cons, ih, List.length_cons]

/-- Two command lines have one canonical form exactly if they are equivalent. -/
theorem canonical_eq_canonical_iff : canonical args = canonical args' ↔ Equivalent args args' := by
  induction args generalizing args' with
  | nil =>
    constructor
    · intro h
      have hlength := congrArg List.length h
      rw [length_canonical, length_canonical] at hlength
      exact ⟨hlength, by simp⟩
    · intro h
      rw [List.length_eq_zero_iff.1 h.length_eq.symm]
  | cons v args ih =>
    cases args' with
    | nil =>
      constructor
      · intro h
        have hlength := congrArg List.length h
        rw [length_canonical, length_canonical] at hlength
        cases hlength
      · intro h
        cases h.length_eq
    | cons w args' =>
      by_cases hv : v = terminator
      · subst hv
        rw [canonical_terminator_cons, equivalent_terminator_cons]
        by_cases hw : w = terminator
        · rw [hw, canonical_terminator_cons, List.cons.injEq]
        · rw [canonical_cons hw, List.cons.injEq, eq_comm (a := terminator),
            respell_eq_terminator_iff]
          simp [hw, Ne.symm hw]
      · rw [canonical_cons hv, equivalent_cons hv]
        by_cases hw : w = terminator
        · rw [hw, canonical_terminator_cons, List.cons.injEq, respell_eq_terminator_iff]
          simp [hv, not_respelled_terminator]
        · rw [canonical_cons hw, List.cons.injEq, respell_eq_respell_iff, ih]

/-- With two dashes everywhere there is nothing left to change. -/
theorem canonical_canonical (args : List Arg) : canonical (canonical args) = canonical args := by
  fun_induction canonical args with
  | case1 => rfl
  | case2 => rw [canonical_terminator_cons]
  | case3 arg args hne ih =>
    have hrespelled : respell arg ≠ terminator := fun h => hne (respell_eq_terminator_iff.1 h)
    rw [canonical_cons hrespelled, respell_respell, ih]

/-- The words from the terminator on stay as they are. -/
theorem drop_canonical (args : List Arg) :
    (canonical args).drop (args.idxOf terminator) = args.drop (args.idxOf terminator) := by
  fun_induction canonical args with
  | case1 => rfl
  | case2 => rfl
  | case3 arg args hne ih =>
    rw [List.idxOf_cons, beq_eq_false_iff_ne.2 hne, cond_false, List.drop_succ_cons,
      List.drop_succ_cons, ih]

/-- The terminator stays where it is, and no other word becomes one. -/
theorem getElem?_canonical_eq_terminator_iff {n : Nat} :
    (canonical args)[n]? = some terminator ↔ args[n]? = some terminator := by
  fun_induction canonical args generalizing n with
  | case1 => rfl
  | case2 => rfl
  | case3 arg args hne ih =>
    cases n with
    | zero => simp [respell_eq_terminator_iff]
    | succ n => exact ih

/-- Equivalent command lines ask for the same, or are refused for the same reason. -/
theorem read_eq_of_equivalent (h : Equivalent args args') : read args = read args' := by
  cases args with
  | nil => rw [List.length_eq_zero_iff.1 h.length_eq.symm]
  | cons v args =>
    cases args' with
    | nil => cases h.length_eq
    | cons w args' =>
      have hcommand : Command.ofName? v = Command.ofName? w := by
        rcases h.words 0 v w rfl rfl with rfl | ⟨-, hword⟩
        · rfl
        · exact ofName?_of_respelled hword
      have hcanonical := canonical_eq_canonical_iff.2 h
      simp only [read, parse, hcommand, hcanonical]

/-- **The canonical form of a command line tells it apart from all that are not equivalent to it, and from
none that is.** It is its own canonical form, nothing from the terminator on is touched, and no terminator
comes or goes; and equivalent command lines are understood alike. -/
theorem canonical_form :
    (∀ args args', canonical args = canonical args' ↔ Equivalent args args') ∧
      (∀ args, canonical (canonical args) = canonical args ∧
        (canonical args).drop (args.idxOf terminator) = args.drop (args.idxOf terminator) ∧
        ∀ n : Nat, (canonical args)[n]? = some terminator ↔ args[n]? = some terminator) ∧
      ∀ args args', Equivalent args args' → read args = read args' :=
  ⟨fun _ _ => canonical_eq_canonical_iff,
    fun args => ⟨canonical_canonical args, drop_canonical args,
      fun _ => getElem?_canonical_eq_terminator_iff⟩,
    fun _ _ => read_eq_of_equivalent⟩

example : canonical (["-", "-=", "---number", "-number=a=b", "-numbers", "--", "-input"].map
      String.toList) =
    ["-", "-=", "---number", "--number=a=b", "-numbers", "--", "-input"].map String.toList := by
  decide

end Lines

end EvmScope.CommandLine
