import EvmScope.Proofs.LogFlags

/-!
# What reading does not depend on

Two readings of a command line are compared by `told`, which forgets the verbosity and what errors say.
Nothing that is read later depends on the verbosity so far, and none but the wording of an error depends
on whether what is pending takes effect before the next word is looked at or behind it.
-/

namespace EvmScope.CommandLine

set_option autoImplicit false

/-- Settings but for the verbosity. -/
def Settings.hush (s : Settings) : Settings :=
  { s with verbosity := 0 }

/-- A progress but for the verbosity. -/
def Progress.hush (p : Progress) : Progress :=
  { p with settings := p.settings.hush }

/-- What a computation comes to, but for the verbosity and for what an error says. -/
def told : Except Interruption Progress → Option Progress
  | .ok p => some p.hush
  | .error _ => none

/-- What a computation comes to does not depend on the verbosity. -/
def Deaf (f : Progress → Except Interruption Progress) : Prop :=
  ∀ p : Progress, told (f p.hush) = told (f p)

/-- Reads words and lets what is pending in the end take effect. -/
def run (c : Command) (args : List Arg) (p : Progress) : Except Interruption Progress :=
  args.foldlM (Progress.read c) p >>= Progress.resolve

section Told

variable {p q : Progress} {x y : Except Interruption Progress}
  {f g : Progress → Except Interruption Progress}

theorem told_of_ne_ok (h : ∀ r, x ≠ .ok r) : told x = none := by
  cases x with
  | error e => rfl
  | ok r => exact absurd rfl (h r)

theorem exists_of_told_eq_some (h : told x = some p.hush) : ∃ r, x = .ok r ∧ r.hush = p.hush := by
  cases x with
  | error e => cases h
  | ok r => exact ⟨r, rfl, Option.some.inj h⟩

/-- Computations that come to the same still do so behind a step that is deaf to the verbosity. -/
theorem told_bind_congr (hf : Deaf f) (h : told x = told y) : told (x >>= f) = told (y >>= f) := by
  have hbind (z : Except Interruption Progress) :
      told (z >>= f) = (told z).bind fun r => told (f r) := by
    cases z with
    | error e => rfl
    | ok r => exact (hf r).symm
  rw [hbind, hbind, h]

theorem told_bind_congr_right (h : ∀ r, x = .ok r → told (f r) = told (g r)) :
    told (x >>= f) = told (x >>= g) := by
  cases x with
  | error e => rfl
  | ok r => exact h r rfl

/-- A step that is deaf to the verbosity cannot tell two progresses apart that differ in nothing else. -/
theorem Deaf.congr (hf : Deaf f) (h : p.hush = q.hush) : told (f p) = told (f q) := by
  rw [← hf p, h, hf q]

/-- Two such steps in a row are one. -/
theorem Deaf.bind (hf : Deaf f) (hg : Deaf g) : Deaf fun p => f p >>= g :=
  fun p => told_bind_congr hg (hf p)

theorem told_updated {result result' : Except UsageError Settings}
    (h : result.map Settings.hush = result'.map Settings.hush) :
    told (p.hush.updated result) = told (p.updated result') := by
  cases result with
  | error e =>
    cases result' with
    | error e' => rfl
    | ok t => cases h
  | ok s =>
    cases result' with
    | error e' => cases h
    | ok t =>
      have hst : s.hush = t.hush := Except.ok.inj h
      exact congrArg (fun settings => some { p with settings }) hst

end Told

section Deaf

variable {c : Command}

/-- The verbosity never counts as given. -/
theorem isSet_hush (s : Settings) (flag : Flag) : s.hush.isSet flag = s.isSet flag := by
  cases flag with
  | number which | text which | choice which | switch which => cases which <;> rfl
  | verbosity | help => rfl

/-- Whether a flag can be set to a value, and what comes of it, does not depend on the verbosity. -/
theorem assign_hush (s : Settings) (flag : Flag) (value : Arg) :
    (s.hush.assign flag value).map Settings.hush = (s.assign flag value).map Settings.hush := by
  unfold Settings.assign
  rw [isSet_hush]
  split
  · rfl
  · cases flag with
    | number which =>
      dsimp only
      split
      · cases which <;> rfl
      · rfl
    | text which => cases which <;> rfl
    | choice which =>
      cases which with
      | logFormat => cases Log.Format.ofName? value <;> rfl
      | color => cases Log.ColorMode.ofName? value <;> rfl
    | switch which | verbosity | help => rfl

/-- Whether a flag without a value can be given does not depend on the verbosity. -/
theorem give_hush (s : Settings) (flag : Flag) :
    (s.hush.give flag).map Settings.hush = (s.give flag).map Settings.hush := by
  unfold Settings.give
  rw [isSet_hush]
  split
  · rfl
  · cases flag with
    | switch which => cases which <;> rfl
    | number which | text which | choice which | verbosity | help => rfl

theorem resolve_of_value {p : Progress} {flag : Flag} {value : Arg}
    (h : p.pending = some (.flag flag (some value))) :
    p.resolve = { p with pending := none }.updated (p.settings.assign flag value) := by
  unfold Progress.resolve
  rw [h]
  dsimp only
  cases p.settings.assign flag value <;> rfl

theorem deaf_resolve : Deaf Progress.resolve := by
  intro p
  have hsame : p.hush.pending = p.pending := rfl
  cases hpending : p.pending with
  | none =>
    unfold Progress.resolve
    rw [hsame, hpending]
    rfl
  | some pending =>
    cases pending with
    | target value =>
      unfold Progress.resolve
      rw [hsame, hpending]
      rfl
    | flag flag value =>
      cases value with
      | none =>
        unfold Progress.resolve
        rw [hsame, hpending]
      | some value =>
        rw [resolve_of_value hpending, resolve_of_value (hsame.trans hpending)]
        exact told_updated (p := { p with pending := none }) (assign_hush p.settings flag value)

theorem deaf_attach (flag : Flag) (value : Arg) : Deaf (Progress.attach · flag value) := by
  simp only [attach_eq]
  exact deaf_resolve.bind fun q => told_updated (assign_hush q.settings flag value)

theorem deaf_give {flag : Flag} (h : flag ≠ .help) (byName : Bool) :
    Deaf (Progress.give · flag byName) := by
  simp only [give_eq _ h]
  exact deaf_resolve.bind fun q => told_updated (give_hush q.settings flag)

theorem deaf_lettered {letters : List Char} (h : letters.all isMark = true) :
    Deaf (Progress.lettered c · letters) := by
  induction letters with
  | nil => exact fun p => rfl
  | cons letter letters ih =>
    rw [List.all_cons, Bool.and_eq_true] at h
    simp only [lettered_cons h.1]
    have hgive : Deaf fun q => q.updated (q.settings.give (markFlag letter)) :=
      fun q => told_updated (give_hush q.settings (markFlag letter))
    exact deaf_resolve.bind (hgive.bind (ih h.2))

theorem deaf_plain (arg : Arg) : Deaf (Progress.plain · arg) := by
  intro p
  dsimp only
  unfold Progress.plain
  rw [show p.hush.hasTarget = p.hasTarget from rfl]
  split
  · rfl
  · exact deaf_resolve.bind (fun q => rfl) p

/-- No word is read in another way because of the verbosity. -/
theorem deaf_read (arg : Arg) : Deaf (Progress.read c · arg) := by
  intro p
  dsimp only
  cases hopen : p.terminated with
  | true =>
    rw [read_behind hopen, read_behind (p := p.hush) hopen]
    exact deaf_plain arg p
  | false =>
    have hopen' : p.hush.terminated = false := hopen
    by_cases harg : arg = terminator
    · subst harg
      rw [read_terminator hopen, read_terminator hopen']
      rfl
    · cases kind_of_open (c := c) harg with
      | refused hmarks h =>
        rw [told_of_ne_ok fun r => h p r hopen, told_of_ne_ok fun r => h p.hush r hopen']
      | marked hmarks hawaits h =>
        rw [h p hopen, h p.hush hopen']
        exact deaf_lettered (all_isMark_marks arg) p
      | attached flag value hmarks hawaits h =>
        rw [h p hopen, h p.hush hopen']
        exact deaf_attach flag value p
      | awaiting flag hmarks hawaits h =>
        rw [h p hopen, h p.hush hopen']
        exact deaf_resolve.bind (fun q => rfl) p
      | json hmarks hawaits h =>
        rw [h p hopen, h p.hush hopen']
        exact deaf_give (by decide) true p
      | plain hmarks hawaits hplain =>
        by_cases hwaiting : p.Waiting
        · obtain ⟨flag, hflag⟩ := hwaiting
          rw [read_of_waiting hopen hplain hflag, read_of_waiting hopen' hplain hflag]
          rfl
        · rw [read_of_not_waiting hopen hplain hwaiting, read_of_not_waiting hopen' hplain hwaiting]
          exact deaf_plain arg p

theorem run_cons (arg : Arg) (args : List Arg) (p : Progress) :
    run c (arg :: args) p = p.read c arg >>= run c args := by
  unfold run
  rw [List.foldlM_cons, bind_assoc]

/-- Reading words does not depend on how often the verbosity has been raised before. -/
theorem deaf_run (args : List Arg) : Deaf (run c args) := by
  induction args with
  | nil => exact deaf_resolve
  | cons arg args ih =>
    simp only [funext (run_cons arg args)]
    exact (deaf_read arg).bind ih

end Deaf

section Resolving

variable {c : Command} {p q : Progress} {arg : Arg} {letters : List Char}

theorem resolve_of_pending_eq_none (h : p.pending = none) : p.resolve = .ok p := by
  unfold Progress.resolve
  rw [h]

/-- A command line may not end while a flag waits for its value. -/
theorem Progress.Waiting.resolve_ne_ok (h : p.Waiting) (r : Progress) : p.resolve ≠ .ok r := by
  obtain ⟨flag, hflag⟩ := h
  unfold Progress.resolve
  rw [hflag]
  intro hr
  cases hr

theorem not_waiting_of_pending_eq_none (h : p.pending = none) : ¬p.Waiting := by
  rintro ⟨flag, hflag⟩
  rw [h] at hflag
  cases hflag

/-- What has taken effect leaves nothing pending. -/
theorem resolve_ok (h : p.resolve = .ok q) :
    q.pending = none ∧ q.hasTarget = p.hasTarget ∧ q.terminated = p.terminated := by
  unfold Progress.resolve at h
  split at h
  · next hnone =>
    obtain rfl := Except.ok.inj h
    exact ⟨hnone, rfl, rfl⟩
  · cases h
  · split at h
    · obtain rfl := Except.ok.inj h
      exact ⟨rfl, rfl, rfl⟩
    · cases h
  · obtain rfl := Except.ok.inj h
    exact ⟨rfl, rfl, rfl⟩

/-- The terminator does not matter to what is pending. -/
theorem resolve_terminated (p : Progress) :
    { p with terminated := true }.resolve =
      p.resolve >>= fun q => .ok { q with terminated := true } := by
  unfold Progress.resolve
  dsimp only
  split
  · rfl
  · rfl
  · split <;> rfl
  · rfl

/-- Flags of the log let take effect first what is pending. -/
theorem lettered_eq (hne : letters ≠ []) (h : letters.all isMark = true) :
    p.lettered c letters = p.resolve >>= (Progress.lettered c · letters) := by
  cases letters with
  | nil => exact absurd rfl hne
  | cons letter letters =>
    rw [List.all_cons, Bool.and_eq_true] at h
    rw [lettered_cons h.1]
    cases hresolve : p.resolve with
    | error e => rfl
    | ok q =>
      change _ = q.lettered c (letter :: letters)
      rw [lettered_cons h.1, resolve_of_pending_eq_none (resolve_ok hresolve).1]

/-- A word that is no plain one is not understood, or lets take effect first what is pending. -/
theorem read_cases (harg : arg ≠ terminator) :
    (∀ p r : Progress, p.terminated = false → p.read c arg ≠ .ok r) ∨
      (∃ g, ∀ p : Progress, p.terminated = false → p.read c arg = p.resolve >>= g) ∨ IsPlain arg := by
  cases kind_of_open (c := c) harg with
  | refused hmarks h => exact .inl h
  | marked hmarks hawaits h =>
    refine .inr (.inl ⟨(Progress.lettered c · (marks arg)), fun p hopen => ?_⟩)
    rw [h p hopen, lettered_eq hmarks (all_isMark_marks arg)]
  | attached flag value hmarks hawaits h =>
    simp only [attach_eq] at h
    exact .inr (.inl ⟨_, h⟩)
  | awaiting flag hmarks hawaits h => exact .inr (.inl ⟨_, h⟩)
  | json hmarks hawaits h =>
    simp only [give_eq _ (show Flag.switch .json ≠ .help by decide)] at h
    exact .inr (.inl ⟨_, h⟩)
  | plain hmarks hawaits h => exact .inr (.inr h)

/-- A second target is told from the first before what is pending takes effect: then both ways fail,
though perhaps with errors of their own. -/
theorem told_resolve_plain (k : Progress → Except Interruption Progress) :
    told (p.resolve >>= fun q => q.plain arg >>= k) = told (p.plain arg >>= k) := by
  unfold Progress.plain
  cases hresolve : p.resolve with
  | error e =>
    split
    · rfl
    · rfl
  | ok q =>
    obtain ⟨hnone, htarget, -⟩ := resolve_ok hresolve
    change told ((if q.hasTarget = true then _ else _) >>= k) = _
    rw [htarget]
    split
    · rfl
    · rw [resolve_of_pending_eq_none hnone]

/-- It does not matter if what is pending takes effect before the next word is looked at. -/
theorem told_resolve_read (hopen : p.terminated = false) (hwaiting : ¬p.Waiting)
    (harg : arg ≠ terminator) (k : Progress → Except Interruption Progress) :
    told (p.resolve >>= fun q => q.read c arg >>= k) = told (p.read c arg >>= k) := by
  rcases read_cases (c := c) harg with h | ⟨g, h⟩ | h
  · rw [told_of_ne_ok, told_of_ne_ok]
    · intro r hr
      obtain ⟨q, hq, -⟩ := exists_of_bind_eq_ok hr
      exact h p q hopen hq
    · intro r hr
      obtain ⟨q, hresolve, hr⟩ := exists_of_bind_eq_ok hr
      obtain ⟨q', hq', -⟩ := exists_of_bind_eq_ok hr
      exact h q q' ((resolve_ok hresolve).2.2.trans hopen) hq'
  · rw [h p hopen, bind_assoc]
    refine told_bind_congr_right fun q hresolve => ?_
    obtain ⟨hnone, -, hq⟩ := resolve_ok hresolve
    rw [h q (hq.trans hopen), resolve_of_pending_eq_none hnone]
    rfl
  · rw [read_of_not_waiting hopen h hwaiting, ← told_resolve_plain]
    refine told_bind_congr_right fun q hresolve => ?_
    obtain ⟨hnone, -, hq⟩ := resolve_ok hresolve
    rw [read_of_not_waiting (hq.trans hopen) h (not_waiting_of_pending_eq_none hnone)]

/-- It does not matter if what is pending takes effect before the next words are looked at. -/
theorem told_resolve_run (hwaiting : ¬p.Waiting) (args : List Arg) :
    told (p.resolve >>= run c args) = told (run c args p) := by
  induction args generalizing p with
  | nil =>
    refine (told_bind_congr_right fun q hresolve => ?_).trans (congrArg told (bind_pure p.resolve))
    exact congrArg told (resolve_of_pending_eq_none (resolve_ok hresolve).1)
  | cons arg args ih =>
    simp only [funext (run_cons arg args)]
    cases hterminated : p.terminated with
    | true =>
      rw [read_behind hterminated, ← told_resolve_plain]
      refine told_bind_congr_right fun q hresolve => ?_
      rw [read_behind ((resolve_ok hresolve).2.2.trans hterminated)]
    | false =>
      by_cases harg : arg = terminator
      · subst harg
        rw [read_terminator hterminated]
        refine Eq.trans ?_ (ih (p := { p with terminated := true }) hwaiting)
        rw [resolve_terminated, bind_assoc]
        refine told_bind_congr_right fun q hresolve => ?_
        rw [read_terminator ((resolve_ok hresolve).2.2.trans hterminated)]
      · exact told_resolve_read hterminated hwaiting harg _

end Resolving

end EvmScope.CommandLine
