import EvmScope.Proofs.MarkedLines
import EvmScope.Proofs.ReadingAlike

/-!
# Verbosity

Flags that raise the verbosity may stand anywhere in front of the terminator but between a flag and the
value it waits for, on their own or among other letters. A command line with them asks for the same as
without them, with their number for a count.
-/

namespace EvmScope.CommandLine

set_option autoImplicit false

/-- The flags of the log that a word gives besides raising the verbosity. -/
def others (arg : Arg) : List Char :=
  (marks arg).filter (· ≠ 'v')

/-- What is left of a word when no flag in it raises the verbosity any more. -/
def unraised? (arg : Arg) : Option Arg :=
  if 'v' ∈ marks arg then if others arg = [] then none else some ('-' :: others arg) else some arg

/-- A command line without the flags that raise the verbosity. -/
def unraised : List Arg → List Arg
  | [] => []
  | arg :: args =>
    if arg = terminator then arg :: args else (unraised? arg).toList ++ unraised args

/-- No word that does nothing but raise the verbosity stands behind a flag that waits for its value. -/
def Unparted (c : Command) (args : List Arg) : Prop :=
  (front args).IsChain fun v w => awaitsValue c v = true → (unraised? w).isSome = true

section Marks

variable {arg : Arg} {letters : List Char}

theorem all_isMark_others (arg : Arg) : (others arg).all isMark = true :=
  List.all_eq_true.2 fun _ h => isMark_of_mem_marks (List.mem_filter.1 h).1

/-- What a word gives besides does not raise the verbosity. -/
theorem not_mem_others (arg : Arg) : 'v' ∉ others arg := by
  simp [others]

theorem unraised?_of_not_mem (h : 'v' ∉ marks arg) : unraised? arg = some arg := by
  rw [unraised?, if_neg h]

/-- A word that raises the verbosity is left with its other flags, or left out. -/
theorem unraised?_of_mem (h : 'v' ∈ marks arg) :
    unraised? arg = if others arg = [] then none else some ('-' :: others arg) := by
  rw [unraised?, if_pos h]

/-- Letters behind a dash are the marks of the word. -/
theorem marks_letters (hne : letters ≠ []) (h : letters.all isMark = true) :
    marks ('-' :: letters) = letters := by
  cases letters with
  | nil => exact absurd rfl hne
  | cons letter letters =>
    have hdash : letter ≠ '-' := by
      rintro rfl
      rw [List.all_cons] at h
      cases h
    rw [marks_dash hdash, if_pos h]

theorem unraised_terminator_cons (args : List Arg) :
    unraised (terminator :: args) = terminator :: args := by
  rw [unraised, if_pos rfl]

theorem unraised_cons (harg : arg ≠ terminator) (args : List Arg) :
    unraised (arg :: args) = (unraised? arg).toList ++ unraised args := by
  rw [unraised, if_neg harg]

/-- What is left of a word is the word itself, or the letters of its other flags behind a dash. -/
theorem unraised?_eq_some {arg' : Arg} (h : unraised? arg = some arg') :
    arg' = arg ∧ 'v' ∉ marks arg ∨ others arg ≠ [] ∧ marks arg' = others arg := by
  by_cases hv : 'v' ∈ marks arg
  · rw [unraised?_of_mem hv] at h
    split at h
    · cases h
    · next hne =>
      obtain rfl := Option.some.inj h
      exact .inr ⟨hne, marks_letters hne (all_isMark_others arg)⟩
  · rw [unraised?_of_not_mem hv] at h
    exact .inl ⟨(Option.some.inj h).symm, hv⟩

theorem ne_terminator_of_unraised? {arg' : Arg} (harg : arg ≠ terminator)
    (h : unraised? arg = some arg') : arg' ≠ terminator := by
  rcases unraised?_eq_some h with ⟨rfl, -⟩ | ⟨hne, hmarks⟩
  · exact harg
  · exact ne_terminator_of_marks (by rwa [hmarks])

theorem not_mem_marks_of_unraised? {arg' : Arg} (h : unraised? arg = some arg') :
    'v' ∉ marks arg' := by
  rcases unraised?_eq_some h with ⟨rfl, hv⟩ | ⟨-, hmarks⟩
  · exact hv
  · rw [hmarks]
    exact not_mem_others arg

end Marks

section Unraised

variable {c : Command} {p q r : Progress} {arg : Arg} {args : List Arg} {letters : List Char}

theorem pending_of_updated {result : Except UsageError Settings} (h : p.updated result = .ok r) :
    r.pending = p.pending := by
  cases result with
  | error e => cases h
  | ok s =>
    obtain rfl := Except.ok.inj h
    rfl

theorem pending_of_lettered (hmarks : letters.all isMark = true) (hp : p.pending = none)
    (h : p.lettered c letters = .ok r) : r.pending = none := by
  induction letters generalizing p with
  | nil =>
    obtain rfl := Except.ok.inj h
    exact hp
  | cons letter letters ih =>
    rw [List.all_cons, Bool.and_eq_true] at hmarks
    rw [lettered_cons hmarks.1, resolve_of_pending_eq_none hp] at h
    obtain ⟨q, hq, hr⟩ := exists_of_bind_eq_ok (x := p.updated _) h
    exact ih hmarks.2 ((pending_of_updated hq).trans hp) hr

/-- A flag waits for its value behind a word that says so, and behind no other. -/
theorem waiting_read_iff (hopen : p.terminated = false) (harg : arg ≠ terminator)
    (h : p.read c arg = .ok r) : r.Waiting ↔ awaitsValue c arg = true := by
  have hupdated {result : Progress → Except UsageError Settings}
      (hr : (p.resolve >>= fun q => q.updated (result q)) = .ok r) : ¬r.Waiting := by
    obtain ⟨q, hresolve, hr⟩ := exists_of_bind_eq_ok hr
    exact not_waiting_of_pending_eq_none ((pending_of_updated hr).trans (resolve_ok hresolve).1)
  cases kind_of_open (c := c) harg with
  | refused hmarks hrefused => exact absurd h (hrefused p r hopen)
  | marked hmarks hawaits hread =>
    rw [hread p hopen, lettered_eq hmarks (all_isMark_marks arg)] at h
    obtain ⟨q, hresolve, hr⟩ := exists_of_bind_eq_ok h
    have hnone := pending_of_lettered (all_isMark_marks arg) (resolve_ok hresolve).1 hr
    simp [hawaits, not_waiting_of_pending_eq_none hnone]
  | attached flag value hmarks hawaits hread =>
    rw [hread p hopen, attach_eq] at h
    simp [hawaits, hupdated h]
  | awaiting flag hmarks hawaits hread =>
    rw [hread p hopen] at h
    obtain ⟨q, hresolve, hr⟩ := exists_of_bind_eq_ok h
    obtain rfl := Except.ok.inj hr
    exact iff_of_true ⟨flag, rfl⟩ hawaits
  | json hmarks hawaits hread =>
    rw [hread p hopen, give_eq p (by decide)] at h
    simp [hawaits, hupdated h]
  | plain hmarks hawaits hplain =>
    have hnot : ¬r.Waiting := by
      by_cases hwaiting : p.Waiting
      · obtain ⟨flag, hflag⟩ := hwaiting
        rw [read_of_waiting hopen hplain hflag] at h
        obtain rfl := Except.ok.inj h
        rintro ⟨flag', hflag'⟩
        cases hflag'
      · rw [read_of_not_waiting hopen hplain hwaiting, Progress.plain] at h
        split at h
        · cases h
        · obtain ⟨q, hresolve, hr⟩ := exists_of_bind_eq_ok h
          obtain rfl := Except.ok.inj hr
          rintro ⟨flag', hflag'⟩
          cases hflag'
    simp [hawaits, hnot]

/-- With nothing pending, flags that raise the verbosity may be left out among letters. -/
theorem told_lettered_filter (hmarks : letters.all isMark = true) (hp : p.pending = none) :
    told (p.lettered c letters) = told (p.lettered c (letters.filter (· ≠ 'v'))) := by
  induction letters generalizing p with
  | nil => rfl
  | cons letter letters ih =>
    rw [List.all_cons, Bool.and_eq_true] at hmarks
    rw [lettered_cons hmarks.1, resolve_of_pending_eq_none hp]
    rcases isMark_iff.1 hmarks.1 with rfl | rfl
    · rw [List.filter_cons_of_neg (by simp)]
      have hfilter : (letters.filter (· ≠ 'v')).all isMark = true :=
        List.all_eq_true.2 fun l hl => List.all_eq_true.1 hmarks.2 l (List.mem_filter.1 hl).1
      refine (ih (p := { p with settings := { p.settings with
        verbosity := min 255 (p.settings.verbosity + 1) } }) hmarks.2 hp).trans ?_
      exact (deaf_lettered hfilter).congr rfl
    · rw [List.filter_cons_of_pos (by simp), lettered_cons hmarks.1, resolve_of_pending_eq_none hp]
      refine told_bind_congr_right (x := .ok p) fun q hq => ?_
      obtain rfl := Except.ok.inj hq
      exact told_bind_congr_right fun r hr => ih hmarks.2 ((pending_of_updated hr).trans hp)

/-- A word that does nothing but raise the verbosity is as good as none, if no flag waits for its
value. -/
theorem told_run_of_others_eq_nil (hopen : p.terminated = false) (hwaiting : ¬p.Waiting)
    (hv : 'v' ∈ marks arg) (hothers : others arg = []) :
    told (run c (arg :: args) p) = told (run c args p) := by
  have hne := List.ne_nil_of_mem hv
  rw [run_cons, read_of_marks hopen hne, lettered_eq hne (all_isMark_marks arg), bind_assoc,
    ← told_resolve_run hwaiting]
  refine told_bind_congr_right fun q hresolve => ?_
  have hnone := (resolve_ok hresolve).1
  have hletters := told_lettered_filter (c := c) (all_isMark_marks arg) hnone
  rw [← others, hothers] at hletters
  exact told_bind_congr (deaf_run args) hletters

/-- A word with other flags of the log is as good as one with these alone. -/
theorem told_read_others (hopen : p.terminated = false) (hothers : others arg ≠ []) :
    told (p.read c arg) = told (p.read c ('-' :: others arg)) := by
  have hmarks := marks_letters hothers (all_isMark_others arg)
  have hne : marks arg ≠ [] := by
    intro h
    rw [others, h] at hothers
    exact hothers rfl
  rw [read_of_marks hopen hne, read_of_marks hopen (by rwa [hmarks]), hmarks,
    lettered_eq hne (all_isMark_marks arg), lettered_eq hothers (all_isMark_others arg)]
  refine told_bind_congr_right fun q hresolve => ?_
  exact told_lettered_filter (all_isMark_marks arg) (resolve_ok hresolve).1

/-- The first word in front of the terminator is not one that does nothing but raise the verbosity. -/
def Stays (args : List Arg) : Prop :=
  ∀ w ∈ (front args).head?, (unraised? w).isSome = true

/-- What has to hold at the first word, and at all others. -/
theorem unparted_cons_iff (harg : arg ≠ terminator) :
    Unparted c (arg :: args) ↔ (awaitsValue c arg = true → Stays args) ∧ Unparted c args := by
  unfold Unparted
  rw [front_cons harg, List.isChain_cons]
  constructor
  · exact fun h => ⟨fun hawaits w hw => h.1 w hw hawaits, h.2⟩
  · exact fun h => ⟨fun w hw hawaits => h.1 hawaits w hw, h.2⟩

theorem stays_cons_iff (harg : arg ≠ terminator) :
    Stays (arg :: args) ↔ (unraised? arg).isSome = true := by
  simp [Stays, front_cons harg]

/-- Words come to the same with and without the flags that raise the verbosity, but for the verbosity and
for what errors say, unless such a flag parts another one from its value. -/
theorem told_run_unraised (hopen : p.terminated = false) (hparted : Unparted c args)
    (hwaiting : p.Waiting → Stays args) :
    told (run c args p) = told (run c (unraised args) p) := by
  -- along the words: where a flag waits for its value, the next word is not left out
  induction args generalizing p with
  | nil => rfl
  | cons arg args ih =>
    by_cases harg : arg = terminator
    · rw [harg, unraised_terminator_cons]
    rw [unparted_cons_iff harg] at hparted
    rw [stays_cons_iff harg] at hwaiting
    have hrest : told (run c (arg :: args) p) = told (p.read c arg >>= run c (unraised args)) := by
      rw [run_cons]
      refine told_bind_congr_right fun r hr => ih ?_ hparted.2 fun hwaits => ?_
      · exact (yields_read hopen harg r hr).1.trans hopen
      · exact hparted.1 ((waiting_read_iff hopen harg hr).1 hwaits)
    rw [unraised_cons harg]
    by_cases hv : 'v' ∈ marks arg
    · rw [unraised?_of_mem hv] at hwaiting ⊢
      by_cases hothers : others arg = []
      · rw [if_pos hothers] at hwaiting ⊢
        have hnot : ¬p.Waiting := fun hwaits => absurd (hwaiting hwaits) (by simp)
        rw [told_run_of_others_eq_nil hopen hnot hv hothers]
        exact ih hopen hparted.2 fun hwaits => absurd hwaits hnot
      · rw [if_neg hothers, hrest, Option.toList_some, List.singleton_append, run_cons]
        exact told_bind_congr (deaf_run _) (told_read_others hopen hothers)
    · rw [unraised?_of_not_mem hv, hrest, Option.toList_some, List.singleton_append, run_cons]

/-- Words that are understood do not part a flag from its value. -/
theorem unparted_of_run (hopen : p.terminated = false) (h : run c args p = .ok r) :
    Unparted c args ∧ (p.Waiting → Stays args) := by
  induction args generalizing p with
  | nil => exact ⟨List.isChain_nil, fun _ w hw => by cases hw⟩
  | cons arg args ih =>
    by_cases harg : arg = terminator
    · subst harg
      unfold Unparted Stays
      rw [front_terminator_cons]
      exact ⟨List.isChain_nil, fun _ w hw => by cases hw⟩
    · rw [run_cons] at h
      obtain ⟨q, hq, hr⟩ := exists_of_bind_eq_ok h
      obtain ⟨hunparted, hstays⟩ := ih ((yields_read hopen harg q hq).1.trans hopen) hr
      rw [unparted_cons_iff harg, stays_cons_iff harg]
      refine ⟨⟨fun hawaits => hstays ((waiting_read_iff hopen harg hq).2 hawaits), hunparted⟩, ?_⟩
      intro hwaiting
      rcases read_cases (c := c) harg with hrefused | ⟨g, hread⟩ | hplain
      · exact absurd hq (hrefused p q hopen)
      · rw [hread p hopen] at hq
        obtain ⟨q', hq', -⟩ := exists_of_bind_eq_ok hq
        exact absurd hq' (hwaiting.resolve_ne_ok q')
      · rw [unraised?_of_not_mem]
        · rfl
        · rw [marks_of_isPlain hplain]
          exact List.not_mem_nil

end Unraised

section Spelling

/-- Whether a flag raises the verbosity does not depend on its dashes. -/
theorem unraised?_respell (v : Arg) : unraised? (respell v) = (unraised? v).map respell := by
  by_cases hv : 'v' ∈ marks v
  · rw [respell_of_marks (List.ne_nil_of_mem hv), unraised?_of_mem hv]
    split
    · rfl
    · next hne =>
      have hletters := marks_letters hne (all_isMark_others v)
      rw [Option.map_some, respell_of_marks (by rwa [hletters])]
  · rw [unraised?_of_not_mem hv, unraised?_of_not_mem (by rwa [marks_respell]), Option.map_some]

/-- It does not matter if the dashes are added before or after flags are left out. -/
theorem canonical_unraised (words : List Arg) :
    canonical (unraised words) = unraised (canonical words) := by
  induction words with
  | nil => rfl
  | cons v words ih =>
    by_cases hv : v = terminator
    · subst hv
      rw [unraised_terminator_cons, canonical_terminator_cons, unraised_terminator_cons]
    · rw [unraised_cons hv, canonical_cons hv, unraised_cons (respell_eq_terminator_iff.not.2 hv),
        unraised?_respell, ← ih]
      cases hw : unraised? v with
      | none => rfl
      | some w => exact canonical_cons (ne_terminator_of_unraised? hv hw) _

theorem allMarks_canonical (words : List Arg) : allMarks (canonical words) = allMarks words := by
  induction words with
  | nil => rfl
  | cons v words ih =>
    by_cases hv : v = terminator
    · rw [hv, canonical_terminator_cons]
    · rw [canonical_cons hv, allMarks_cons hv, allMarks_cons (respell_eq_terminator_iff.not.2 hv),
        marks_respell, ih]

/-- Nothing is left that raises the verbosity. -/
theorem not_mem_allMarks_unraised (words : List Arg) : 'v' ∉ allMarks (unraised words) := by
  induction words with
  | nil => exact List.not_mem_nil
  | cons v words ih =>
    by_cases hv : v = terminator
    · rw [hv, unraised_terminator_cons, allMarks, front_terminator_cons]
      exact List.not_mem_nil
    · rw [unraised_cons hv]
      cases hw : unraised? v with
      | none => exact ih
      | some w =>
        rw [Option.toList_some, List.singleton_append,
          allMarks_cons (ne_terminator_of_unraised? hv hw), List.mem_append, not_or]
        exact ⟨not_mem_marks_of_unraised? hw, ih⟩

end Spelling

/-- The log options of a request, if it has any. -/
def Request.logs? : Request → Option Log.Options
  | .disasm _ logs | .exec _ logs => some logs
  | .overview | .help _ _ => none

/-- A request with another count in its log options. -/
def Request.withCount (count : Nat) : Request → Request
  | .disasm target logs =>
    .disasm target { logs with verbosity := { logs.verbosity with count } }
  | .exec options logs =>
    .exec options { logs with verbosity := { logs.verbosity with count } }
  | .overview => .overview
  | .help c long => .help c long

/-- The threshold for a command line that raises the verbosity so many times. -/
def asked (silent : Bool) (times : Nat) : Log.Threshold :=
  if silent then .off
  else if times ≤ 1 then .upTo .warn
  else if times = 2 then .upTo .info
  else if times = 3 then .upTo .debug
  else .upTo .trace

/-- What flags that raise the verbosity do to a command line. -/
structure Counted (c : Command) (words : List Arg) : Prop where
  /-- They may be added to one that is understood, where they part no flag from its value, and all that
  changes is the count, which stops at 255. -/
  harmless : Unparted c (canonical words) → ∀ r : Request, r.logs?.isSome = true →
    read (c.name.toList :: unraised words) = .ok r →
      read (c.name.toList :: words) = .ok (r.withCount (max 1 (min 255 (raised words))))
  /-- They may be left out again, and have parted no flag from its value. -/
  needless : ∀ r : Request, r.logs?.isSome = true → read (c.name.toList :: words) = .ok r →
    Unparted c (canonical words) ∧
      read (c.name.toList :: unraised words) = .ok (r.withCount 1)
  /-- The threshold is told by their number alone, unless silence is asked for. -/
  threshold : ∀ (r : Request) (logs : Log.Options), r.logs? = some logs →
    read (c.name.toList :: words) = .ok r →
      logs.verbosity.threshold = asked (silenced words) (raised words)

/-- Command lines that are written in full are understood with flags of the log in any places, on their own
or several in one word, if silence is asked for no more than once. -/
structure Understood (words : List Arg) : Prop where
  exec : ∀ (o : CallOptions) (ws : List Written), (∀ which, o.numberOf which < UInt64.size) →
    Tells ws o → Among (ws.map (·.word o)) words → (allMarks words).count 'q' ≤ 1 →
      read (Command.exec.name.toList :: words ++ [terminator, o.target]) =
        .ok (.exec o (markedOptions words))
  disasm : ∀ target : Arg, (∀ arg ∈ words, marks arg ≠ []) → (allMarks words).count 'q' ≤ 1 →
    read (Command.disasm.name.toList :: words ++ [terminator, target]) =
      .ok (.disasm target (markedOptions words))
  threshold : (markedOptions words).verbosity.threshold = asked (silenced words) (raised words)

section Counted

variable {c : Command} {words : List Arg} {p q : Progress} {r : Request} {s t : Settings} {n : Nat}

theorem readSettings_eq (c : Command) (args : List Arg) :
    readSettings c args = run c args {} >>= fun p => .ok p.settings := by
  rw [run, bind_assoc]
  rfl

theorem logs?_request (s : Settings) (c : Command) : (s.request c).logs? = some s.logOptions := by
  cases c <;> rfl

/-- What a directive for the log belongs to is read from settings. -/
theorem read_eq_ok_iff (hlogs : r.logs?.isSome = true) :
    read (c.name.toList :: words) = .ok r ↔
      ∃ p, run c (canonical words) {} = .ok p ∧ p.settings.request c = r := by
  rw [read_command, readSettings_eq]
  cases run c (canonical words) {} with
  | error e =>
    refine iff_of_false ?_ ?_
    · cases e with
      | usage e =>
        intro h
        cases h
      | help long =>
        intro h
        obtain rfl := Except.ok.inj h
        cases hlogs
    · rintro ⟨p, hp, -⟩
      cases hp
  | ok p =>
    constructor
    · intro h
      exact ⟨p, rfl, Except.ok.inj h⟩
    · rintro ⟨q, hq, rfl⟩
      obtain rfl := Except.ok.inj hq
      rfl

/-- A command line that is read has raised the verbosity as often as its flags say, up to 255 times. -/
theorem took_of_run (h : run c (canonical words) {} = .ok p) :
    p.settings.verbosity = min 255 (raised words) ∧ p.settings.quiet = silenced words := by
  obtain ⟨q, hq, hresolve⟩ := exists_of_bind_eq_ok h
  have htook := (took_of_foldlM rfl hq).append (yields_resolve q p hresolve).2
  rw [List.append_nil, allMarks_canonical] at htook
  have hverbosity := htook.verbosity (Nat.zero_le _)
  rw [Nat.zero_add] at hverbosity
  exact ⟨hverbosity, htook.quiet⟩

/-- Settings that agree but for the verbosity ask for the same but for the count. -/
theorem request_of_hush (hst : s.hush = t.hush) (hs : s.verbosity = min 255 n) :
    s.request c = (t.request c).withCount (max 1 (min 255 n)) := by
  have hs' : s = { t with verbosity := min 255 n } := by
    rw [← hs]
    exact congrArg (fun u : Settings => { u with verbosity := s.verbosity }) hst
  rw [hs', ← count_of_raised]
  cases c <;> rfl

/-- Too many flags do no harm, and none stands for one. -/
theorem threshold_count (quiet : Bool) (n : Nat) :
    Log.Verbosity.threshold { count := max 1 (min 255 n), quiet } = asked quiet n := by
  have hcount : max 1 (min 255 n) - 1 = min 254 (n - 1) := by omega
  unfold Log.Verbosity.threshold asked
  dsimp only
  rw [hcount]
  split
  · rfl
  · rcases n with _ | _ | _ | _ | n
    · rfl
    · rfl
    · rfl
    · rfl
    · obtain ⟨m, hm⟩ : ∃ m, min 254 (n + 4 - 1) = m + 3 := ⟨min 251 n, by omega⟩
      rw [hm, if_neg (by omega), if_neg (by omega), if_neg (by omega)]
      rfl

/-- What flags that raise the verbosity do to a command line, whatever its words. -/
theorem counted (c : Command) (words : List Arg) : Counted c words := by
  have hsame (hparted : Unparted c (canonical words)) :
      told (run c (canonical words) {}) = told (run c (canonical (unraised words)) {}) := by
    rw [canonical_unraised]
    refine told_run_unraised rfl hparted fun hwaiting => ?_
    exact absurd hwaiting (not_waiting_of_pending_eq_none rfl)
  refine ⟨fun hparted r hlogs h => ?_, fun r hlogs h => ?_, fun r logs hlogs h => ?_⟩
  · obtain ⟨q, hq, rfl⟩ := (read_eq_ok_iff hlogs).1 h
    have hp := hsame hparted
    rw [hq] at hp
    obtain ⟨p, hp, hpq⟩ := exists_of_told_eq_some hp
    rw [← request_of_hush (congrArg Progress.settings hpq) (took_of_run hp).1]
    exact (read_eq_ok_iff (by rw [logs?_request]; rfl)).2 ⟨p, hp, rfl⟩
  · obtain ⟨p, hp, rfl⟩ := (read_eq_ok_iff hlogs).1 h
    have hparted := (unparted_of_run rfl hp).1
    refine ⟨hparted, ?_⟩
    have hq := hsame hparted
    rw [hp] at hq
    obtain ⟨q, hq, hqp⟩ := exists_of_told_eq_some hq.symm
    have hnone : raised (unraised words) = 0 :=
      List.count_eq_zero.2 (not_mem_allMarks_unraised words)
    have hrequest : q.settings.request c = (p.settings.request c).withCount 1 :=
      request_of_hush (congrArg Progress.settings hqp) (hnone ▸ (took_of_run hq).1)
    exact (read_eq_ok_iff (by rw [← hrequest, logs?_request]; rfl)).2 ⟨q, hq, hrequest⟩
  · obtain ⟨p, hp, rfl⟩ := (read_eq_ok_iff (by rw [hlogs]; rfl)).1 h
    obtain ⟨hverbosity, hquiet⟩ := took_of_run hp
    rw [logs?_request] at hlogs
    obtain rfl := Option.some.inj hlogs
    rw [verbosity_logOptions hverbosity, threshold_count, hquiet]

/-- **Verbosity is counted, however the flags for it are written.** A command line that is understood
without them is understood with any number of them, if none comes between a flag and its value, and asks
for the same. Only the threshold of the log changes, by their number; too many of them do no harm. And
those command lines are understood that are written in full. -/
theorem verbosity_counted :
    (∀ (c : Command) (words : List Arg), Counted c words) ∧ ∀ words : List Arg, Understood words :=
  ⟨counted, fun _ =>
    { exec := fun _ _ hfits htells h hquiet => read_exec_among hfits htells h hquiet
      disasm := fun _ h hquiet => read_disasm_among h hquiet
      threshold := threshold_count _ _ }⟩

/-- Three flags that raise the verbosity, of which one goes by its name and two stand around one that asks
for silence; behind the terminator the same word is a target. Without them the words ask for the same call. -/
theorem clustered_flags_counted :
    let o : CallOptions := { CallOptions.default with target := "-v".toList, number := 7 }
    let logs : Log.Options := { verbosity := { count := 3, quiet := true } }
    read (["exec", "-vqv", "-number=7", "--verbosity", "--", "-v"].map String.toList) =
        .ok (.exec o logs) ∧
      logs.verbosity.threshold = .off ∧
      read (["exec", "-q", "-number=7", "--", "-v"].map String.toList) =
        .ok (.exec o { verbosity := { count := 1, quiet := true } }) := by
  intro o logs
  let words := ["-vqv", "-number=7", "--verbosity"].map String.toList
  have hfits : ∀ which, o.numberOf which < UInt64.size := by
    intro which
    cases which <;> decide
  have htells : Tells [⟨.number .number, false⟩] o := by
    refine ⟨by decide, by decide, fun f hf => ?_⟩
    rcases f with (_ | _ | _ | _ | _) | _ | _ | _ | _
    case number.number => exact absurd (by decide) hf
    all_goals rfl
  have hword : Written.word o ⟨.number .number, false⟩ = "-number=7".toList := by decide +kernel
  have hamong : Among ([⟨.number .number, false⟩].map (Written.word o)) words := by
    rw [List.map_singleton, hword]
    exact .mark _ (by decide) (.word _ (.mark "--verbosity".toList (by decide) .nil))
  have hunderstood := verbosity_counted.2 words
  have hread := hunderstood.exec o _ hfits htells hamong (by decide)
  have hcounted := verbosity_counted.1 .exec (words ++ [terminator, o.target])
  exact ⟨hread, hunderstood.threshold, (hcounted.needless _ rfl hread).2⟩

end Counted

end EvmScope.CommandLine
