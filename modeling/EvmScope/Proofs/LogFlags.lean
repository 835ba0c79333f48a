import Mathlib.Data.List.Chain
import EvmScope.CommandLine
import EvmScope.Proofs.FlagSpelling

/-!
# Flags for the log

Two flags of a command line change the log and take no value: one raises the verbosity, as often as it is
given, and one asks for silence. They may be written as words of their own or as letters behind one dash,
in any number and order. `marks` reads them off a word by its spelling alone, and what a word does to the
settings of the log is what its marks say. All cases of reading a word are told apart once, by
`kind_of_open`; every fact about words goes by these few cases.
-/

namespace EvmScope.CommandLine

set_option autoImplicit false

/-- A letter that stands for a flag of the log. -/
def isMark (letter : Char) : Bool :=
  letter = 'v' || letter = 'q'

/-- The flags of the log that a word gives, by their letters: `v` raises the verbosity and `q` asks for
silence. -/
def marks : Arg → List Char
  | '-' :: '-' :: name =>
    if name = "verbosity".toList then ['v']
    else if name = "quiet".toList ∨ name = "silent".toList then ['q']
    else []
  | '-' :: letters => if letters.all isMark then letters else []
  | _ => []

/-- The words of a command line in front of the terminator. -/
def front (args : List Arg) : List Arg :=
  args.takeWhile (· ≠ terminator)

/-- The flags of the log that a command line gives. -/
def allMarks (args : List Arg) : List Char :=
  (front args).flatMap marks

/-- Whether a word is a flag that finds its value in the next word. -/
def awaitsValue (c : Command) : Arg → Bool
  | '-' :: '-' :: flag =>
    (Progress.attachment? flag).isNone && (Flag.ofName? c (flagName flag)).any (·.takesValue)
  | _ => false

/-- The letters that stand for flags of the log. -/
theorem isMark_iff {letter : Char} : isMark letter = true ↔ letter = 'v' ∨ letter = 'q' := by
  simp [isMark]

section Marks

theorem marks_dashes (name : Arg) :
    marks ('-' :: '-' :: name) =
      if name = "verbosity".toList then ['v']
      else if name = "quiet".toList ∨ name = "silent".toList then ['q']
      else [] := rfl

theorem marks_dash {letter : Char} (h : letter ≠ '-') (letters : List Char) :
    marks ('-' :: letter :: letters) =
      if (letter :: letters).all isMark then letter :: letters else [] := by
  unfold marks
  simp [h]

/-- A word gives flags of the log only. -/
theorem isMark_of_mem_marks {arg : Arg} {letter : Char} (h : letter ∈ marks arg) :
    isMark letter = true := by
  unfold marks at h
  split at h
  · split at h
    · simp_all [isMark]
    · split at h <;> simp_all [isMark]
  · split at h
    · next hall => exact List.all_eq_true.1 hall letter h
    · cases h
  · cases h

theorem all_isMark_marks (arg : Arg) : (marks arg).all isMark = true :=
  List.all_eq_true.2 fun _ => isMark_of_mem_marks

end Marks

/-- What comes of two computations one after the other has come of both. -/
theorem exists_of_bind_eq_ok {α β : Type} {x : Except Interruption α} {f : α → Except Interruption β}
    {b : β} (h : (x >>= f) = .ok b) : ∃ a, x = .ok a ∧ f a = .ok b := by
  cases x with
  | error e => cases h
  | ok a => exact ⟨a, rfl, h⟩

section Reading

variable {c : Command} {p q r : Progress}

/-- In front of the terminator a word with two dashes is a flag by its name. -/
theorem read_dashes (hopen : p.terminated = false) {flag : Arg} (hne : flag ≠ []) :
    p.read c ('-' :: '-' :: flag) = p.named c (flagName flag) (Progress.attachment? flag) := by
  unfold Progress.read
  cases flag with
  | nil => exact absurd rfl hne
  | cons a flag => simp [hopen]

/-- A word with one dash gives flags by their letters. -/
theorem read_dash (hopen : p.terminated = false) {letter : Char} (hdash : letter ≠ '-')
    (letters : List Char) :
    p.read c ('-' :: letter :: letters) = p.lettered c (letter :: letters) := by
  unfold Progress.read
  simp [hopen, hdash]

/-- A flag still waits for its value. -/
def Progress.Waiting (p : Progress) : Prop :=
  ∃ flag, p.pending = some (.flag flag none)

/-- A lone dash, or a word that begins with none. -/
def IsPlain (arg : Arg) : Prop :=
  arg = ['-'] ∨ arg.head? ≠ some '-'

theorem IsPlain.ne {arg : Arg} (h : IsPlain arg) {a : Char} {rest : Arg} : arg ≠ '-' :: a :: rest := by
  rintro rfl
  rcases h with h | h <;> simp at h

/-- A word that is no flag gives no flag of the log. -/
theorem marks_of_isPlain {arg : Arg} (h : IsPlain arg) : marks arg = [] := by
  rcases h with rfl | h
  · rfl
  · unfold marks
    split
    · simp at h
    · simp at h
    · rfl

/-- A plain word is the value that is waited for. -/
theorem read_of_waiting (hopen : p.terminated = false) {arg : Arg} (h : IsPlain arg) {flag : Flag}
    (hwaiting : p.pending = some (.flag flag none)) :
    p.read c arg = .ok { p with pending := some (.flag flag (some arg)) } := by
  unfold Progress.read
  rw [hopen, if_neg Bool.false_ne_true]
  split
  · exact absurd rfl h.ne
  · exact absurd rfl h.ne
  · exact absurd rfl h.ne
  · rw [hwaiting]

/-- A plain word that is not waited for is a target. -/
theorem read_of_not_waiting (hopen : p.terminated = false) {arg : Arg} (h : IsPlain arg)
    (hwaiting : ¬p.Waiting) : p.read c arg = p.plain arg := by
  unfold Progress.read
  rw [hopen, if_neg Bool.false_ne_true]
  split
  · exact absurd rfl h.ne
  · exact absurd rfl h.ne
  · exact absurd rfl h.ne
  · split
    · next flag hflag => exact absurd ⟨flag, hflag⟩ hwaiting
    · rfl

/-- What has become of the settings is kept, or the reason why nothing has. -/
def Progress.updated (p : Progress) : Except UsageError Settings → Except Interruption Progress
  | .ok settings => .ok { p with settings }
  | .error e => .error (.usage e)

/-- A value attached to its flag changes the settings, once what is pending has taken effect. -/
theorem attach_eq (p : Progress) (flag : Flag) (value : Arg) :
    p.attach flag value = p.resolve >>= fun q => q.updated (q.settings.assign flag value) := by
  unfold Progress.attach
  congr

theorem give_eq (p : Progress) {flag : Flag} (h : flag ≠ .help) (byName : Bool) :
    p.give flag byName = p.resolve >>= fun q => q.updated (q.settings.give flag) := by
  unfold Progress.give
  congr
  funext q
  simp only [if_neg h]
  cases q.settings.give flag <;> rfl

/-- Asking for help always ends the reading. -/
theorem give_help_ne_ok (p : Progress) (byName : Bool) (r : Progress) : p.give .help byName ≠ .ok r := by
  unfold Progress.give
  intro h
  cases hresolve : p.resolve <;> rw [hresolve] at h <;> cases h

/-- The flag of the log that a letter stands for. -/
def markFlag (letter : Char) : Flag :=
  if letter = 'v' then .verbosity else .switch .quiet

theorem markFlag_ne_help (letter : Char) : markFlag letter ≠ .help := by
  unfold markFlag
  split <;> decide

theorem ofLetter?_of_isMark {letter : Char} (h : isMark letter = true) :
    Flag.ofLetter? c letter = some (markFlag letter) := by
  rcases isMark_iff.1 h with rfl | rfl <;> cases c <;> rfl

theorem lettered_cons {letter : Char} (h : isMark letter = true) (letters : List Char) :
    p.lettered c (letter :: letters) =
      p.resolve >>= fun q => q.updated (q.settings.give (markFlag letter)) >>=
        (Progress.lettered c · letters) := by
  rw [Progress.lettered, ofLetter?_of_isMark h]
  simp only [give_eq _ (markFlag_ne_help letter), bind_assoc]

/-- A single letter is read like the flag that it stands for. -/
theorem lettered_singleton {letter : Char} (h : isMark letter = true) (byName : Bool) :
    p.lettered c [letter] = p.give (markFlag letter) byName := by
  rw [lettered_cons h, give_eq p (markFlag_ne_help letter)]
  congr
  funext q
  exact bind_pure _

/-- Only flags of the log have letters, but for that of help. -/
theorem isMark_of_letter? {flag : Flag} {letter : Char} (h : flag.letter? = some letter)
    (hhelp : flag ≠ .help) : isMark letter = true := by
  cases flag with
  | number which | text which | choice which => cases h
  | switch which =>
    cases which with
    | json => cases h
    | quiet =>
      obtain rfl := Option.some.inj h
      rfl
  | verbosity =>
    obtain rfl := Option.some.inj h
    rfl
  | help => exact absurd rfl hhelp

/-- Letters that can be read are all flags of the log. -/
theorem isMark_of_lettered {letters : List Char} (h : p.lettered c letters = .ok r) :
    letters.all isMark = true := by
  induction letters generalizing p with
  | nil => rfl
  | cons letter letters ih =>
    rw [Progress.lettered] at h
    split at h
    · cases h
    · next flag hflag =>
      have hletter : flag.letter? = some letter := by simpa using List.find?_some hflag
      have hgiven : flag ≠ .help := by
        rintro rfl
        obtain ⟨q, hq, -⟩ := exists_of_bind_eq_ok h
        exact give_help_ne_ok p false q hq
      obtain ⟨q, -, hq⟩ := exists_of_bind_eq_ok h
      rw [List.all_cons, isMark_of_letter? hletter hgiven, ih hq]
      rfl

end Reading

section Names

variable {c : Command}

theorem ofName?_verbosity (c : Command) : Flag.ofName? c "verbosity".toList = some .verbosity := by
  cases c <;> rfl

theorem ofName?_quiet (c : Command) : Flag.ofName? c "quiet".toList = some (.switch .quiet) := by
  cases c <;> rfl

theorem ofName?_silent (c : Command) : Flag.ofName? c "silent".toList = some (.switch .quiet) := by
  cases c <;> rfl

theorem flagName_of_attachment? {name : Arg} (h : Progress.attachment? name = none) :
    flagName name = name := by
  have hrest : name.dropWhile (· != '=') = [] := by
    unfold Progress.attachment? at h
    split at h
    · next hrest => exact hrest
    · cases h
  have hsplit := List.takeWhile_append_dropWhile (p := (· != '=')) (l := name)
  rwa [hrest, List.append_nil] at hsplit

/-- The name of any other flag has no marks. -/
theorem marks_of_ofName? {name : Arg} {flag : Flag} (h : Flag.ofName? c name = some flag)
    (hverbosity : flag ≠ .verbosity) (hquiet : flag ≠ .switch .quiet) :
    marks ('-' :: '-' :: name) = [] := by
  have hother {other : Flag} {text : Arg} (hother : Flag.ofName? c text = some other)
      (hne : flag ≠ other) : name ≠ text := by
    rintro rfl
    exact hne (Option.some.inj (h.symm.trans hother))
  rw [marks_dashes, if_neg (hother (ofName?_verbosity c) hverbosity), if_neg]
  rintro (heq | heq)
  · exact hother (ofName?_quiet c) hquiet heq
  · exact hother (ofName?_silent c) hquiet heq

/-- A flag that a command does not have gives no flag of the log. -/
theorem marks_of_unknown {name : Arg} (h : Flag.ofName? c (flagName name) = none) :
    marks ('-' :: '-' :: name) = [] := by
  have hother {other : Flag} {text : Arg} (hname : flagName text = text)
      (hother : Flag.ofName? c text = some other) : name ≠ text := by
    rintro rfl
    rw [hname, hother] at h
    cases h
  rw [marks_dashes, if_neg (hother rfl (ofName?_verbosity c)), if_neg]
  rintro (heq | heq)
  · exact hother rfl (ofName?_quiet c) heq
  · exact hother rfl (ofName?_silent c) heq

/-- No flag of the log has a value attached. -/
theorem marks_of_attachment? {name value : Arg} (h : Progress.attachment? name = some value) :
    marks ('-' :: '-' :: name) = [] := by
  have hother {text : Arg} (htext : Progress.attachment? text = none) : name ≠ text := by
    rintro rfl
    rw [htext] at h
    cases h
  rw [marks_dashes, if_neg (hother rfl), if_neg]
  rintro (heq | heq)
  · exact hother rfl heq
  · exact hother rfl heq

theorem exists_name_of_ofName? {name : Arg} {flag : Flag} (h : Flag.ofName? c name = some flag) :
    ∃ text ∈ flag.names, text.toList = name := by
  unfold Flag.ofName? at h
  have hany := List.find?_some h
  obtain ⟨text, htext, heq⟩ := List.any_eq_true.1 hany
  exact ⟨text, htext, of_decide_eq_true heq⟩

/-- The names of flags of the log stand for their marks. -/
theorem marks_of_verbosity {name : Arg} (h : Flag.ofName? c name = some .verbosity) :
    marks ('-' :: '-' :: name) = ['v'] := by
  obtain ⟨text, htext, rfl⟩ := exists_name_of_ofName? h
  rw [List.mem_singleton.1 htext]
  rfl

theorem marks_of_quiet {name : Arg} (h : Flag.ofName? c name = some (.switch .quiet)) :
    marks ('-' :: '-' :: name) = ['q'] := by
  obtain ⟨text, htext, rfl⟩ := exists_name_of_ofName? h
  rcases List.mem_cons.1 htext with rfl | htext
  · rfl
  · rw [List.mem_singleton.1 htext]
    rfl

end Names

/-- What a word in front of the terminator is read as. -/
inductive Kind (c : Command) (arg : Arg) : Prop
  /-- Nothing that is understood, or a flag that asks for help. -/
  | refused (hmarks : marks arg = [])
      (h : ∀ p r : Progress, p.terminated = false → p.read c arg ≠ .ok r)
  /-- Flags of the log. -/
  | marked (hmarks : marks arg ≠ []) (hawaits : awaitsValue c arg = false)
      (h : ∀ p : Progress, p.terminated = false → p.read c arg = p.lettered c (marks arg))
  /-- A flag with its value. -/
  | attached (flag : Flag) (value : Arg) (hmarks : marks arg = []) (hawaits : awaitsValue c arg = false)
      (h : ∀ p : Progress, p.terminated = false → p.read c arg = p.attach flag value)
  /-- A flag that finds its value in the next word. -/
  | awaiting (flag : Flag) (hmarks : marks arg = []) (hawaits : awaitsValue c arg = true)
      (h : ∀ p : Progress, p.terminated = false →
        p.read c arg = p.resolve >>= fun q => .ok { q with pending := some (.flag flag none) })
  | json (hmarks : marks arg = []) (hawaits : awaitsValue c arg = false)
      (h : ∀ p : Progress, p.terminated = false → p.read c arg = p.give (.switch .json) true)
  /-- A value or the target. -/
  | plain (hmarks : marks arg = []) (hawaits : awaitsValue c arg = false) (h : IsPlain arg)

section Kind

variable {c : Command}

/-- A flag that is given by its name alone. -/
theorem kind_of_given {name : Arg} {flag : Flag} (hname : Flag.ofName? c name = some flag)
    (hvalue : flag.takesValue = false) (hawaits : awaitsValue c ('-' :: '-' :: name) = false)
    (h : ∀ p : Progress, p.terminated = false → p.read c ('-' :: '-' :: name) = p.give flag true) :
    Kind c ('-' :: '-' :: name) := by
  cases flag with
  | number which | text which | choice which => cases hvalue
  | help =>
    refine .refused (marks_of_ofName? hname (by decide) (by decide)) fun p r hopen => ?_
    rw [h p hopen]
    exact give_help_ne_ok p true r
  | switch which =>
    cases which with
    | json => exact .json (marks_of_ofName? hname (by decide) (by decide)) hawaits h
    | quiet =>
      have hmarks := marks_of_quiet hname
      refine .marked (by simp [hmarks]) hawaits fun p hopen => ?_
      rw [h p hopen, hmarks, lettered_singleton rfl true]
      rfl
  | verbosity =>
    have hmarks := marks_of_verbosity hname
    refine .marked (by simp [hmarks]) hawaits fun p hopen => ?_
    rw [h p hopen, hmarks, lettered_singleton rfl true]
    rfl

/-- A flag by its name, with or without a value. -/
theorem kind_of_dashes {name : Arg} (hne : name ≠ []) : Kind c ('-' :: '-' :: name) := by
  have hread {p : Progress} (hopen : p.terminated = false) := read_dashes (c := c) hopen hne
  have hawaits : awaitsValue c ('-' :: '-' :: name) =
      ((Progress.attachment? name).isNone && (Flag.ofName? c (flagName name)).any (·.takesValue)) :=
    rfl
  unfold Progress.named at hread
  cases hflag : Flag.ofName? c (flagName name) with
  | none =>
    refine .refused (marks_of_unknown hflag) fun p r hopen hr => ?_
    rw [hread hopen, hflag] at hr
    cases hr
  | some flag =>
    rw [hflag, Option.any_some] at hawaits
    simp only [hflag] at hread
    cases hvalue : Progress.attachment? name with
    | some value =>
      simp only [hvalue, Option.isNone_some, Bool.false_and] at hawaits hread
      cases htakes : flag.takesValue with
      | true =>
        refine .attached flag value (marks_of_attachment? hvalue) hawaits fun p hopen => ?_
        rw [hread hopen, htakes]
      | false =>
        refine .refused (marks_of_attachment? hvalue) fun p r hopen hr => ?_
        rw [hread hopen, htakes] at hr
        cases hr
    | none =>
      simp only [hvalue, Option.isNone_none, Bool.true_and] at hawaits hread
      rw [flagName_of_attachment? hvalue] at hflag
      cases htakes : flag.takesValue with
      | true =>
        have hverbosity : flag ≠ .verbosity := by
          rintro rfl
          cases htakes
        have hquiet : flag ≠ .switch .quiet := by
          rintro rfl
          cases htakes
        refine .awaiting flag (marks_of_ofName? hflag hverbosity hquiet) (hawaits.trans htakes) ?_
        intro p hopen
        rw [hread hopen, htakes]
        rfl
      | false =>
        refine kind_of_given hflag htakes (hawaits.trans htakes) fun p hopen => ?_
        rw [hread hopen, htakes]

/-- Flags by their letters. -/
theorem kind_of_dash {letter : Char} (hdash : letter ≠ '-') (letters : List Char) :
    Kind c ('-' :: letter :: letters) := by
  have hmarks := marks_dash hdash letters
  cases hall : (letter :: letters).all isMark with
  | true =>
    rw [hall, if_pos rfl] at hmarks
    refine .marked (by simp [hmarks]) ?_ fun p hopen => ?_
    · unfold awaitsValue
      simp [hdash]
    · rw [read_dash hopen hdash, hmarks]
  | false =>
    rw [hall, if_neg Bool.false_ne_true] at hmarks
    refine .refused hmarks fun p r hopen h => ?_
    rw [read_dash hopen hdash] at h
    rw [isMark_of_lettered h] at hall
    cases hall

theorem kind_of_isPlain {arg : Arg} (h : IsPlain arg) : Kind c arg := by
  refine .plain (marks_of_isPlain h) ?_ h
  unfold awaitsValue
  split
  · exact absurd rfl h.ne
  · rfl

/-- Every word in front of the terminator is of one of these kinds. -/
theorem kind_of_open {arg : Arg} (h : arg ≠ terminator) : Kind c arg := by
  cases arg with
  | nil => exact kind_of_isPlain (.inr (by simp))
  | cons a rest =>
    by_cases ha : a = '-'
    · subst ha
      cases rest with
      | nil => exact kind_of_isPlain (.inl rfl)
      | cons letter letters =>
        by_cases hdash : letter = '-'
        · subst hdash
          refine kind_of_dashes ?_
          rintro rfl
          exact h rfl
        · exact kind_of_dash hdash letters
    · exact kind_of_isPlain (.inr (by simp [ha]))

end Kind

/-- What flags of the log do to the settings: each `v` raises the verbosity, up to 255, and any `q` asks
for silence. -/
structure Settings.Took (s : Settings) (letters : List Char) (t : Settings) : Prop where
  verbosity : s.verbosity ≤ 255 → t.verbosity = min 255 (s.verbosity + letters.count 'v')
  quiet : t.quiet = (s.quiet || letters.contains 'q')

/-- What a computation comes to are the settings with some flags of the log given. It does not come to the
terminator. -/
def Progress.Yields (p : Progress) (letters : List Char) (x : Except Interruption Progress) : Prop :=
  ∀ r, x = .ok r → r.terminated = p.terminated ∧ p.settings.Took letters r.settings

section Took

variable {c : Command} {s t u : Settings} {p : Progress} {letters letters' : List Char}
  {x : Except Interruption Progress} {f : Progress → Except Interruption Progress}

theorem took_of_eq (hverbosity : t.verbosity = s.verbosity) (hquiet : t.quiet = s.quiet) :
    s.Took [] t := by
  refine ⟨fun hs => ?_, by simp [hquiet]⟩
  rw [hverbosity, List.count_nil]
  omega

/-- Flags of the log that are taken one after the other are taken together. -/
theorem Settings.Took.append (h : s.Took letters t) (h' : t.Took letters' u) :
    s.Took (letters ++ letters') u := by
  refine ⟨fun hs => ?_, ?_⟩
  · have ht := h.verbosity hs
    have hu := h'.verbosity (by omega)
    rw [List.count_append]
    omega
  · rw [h'.quiet, h.quiet, List.contains_eq_any_beq, List.contains_eq_any_beq,
      List.contains_eq_any_beq, List.any_append, Bool.or_assoc]

/-- What two steps of reading take is what the first takes and then what the second takes. -/
theorem Progress.Yields.bind (hx : p.Yields letters x) (hf : ∀ q : Progress, q.Yields letters' (f q)) :
    p.Yields (letters ++ letters') (x >>= f) := by
  intro r hr
  obtain ⟨q, hq, hr⟩ := exists_of_bind_eq_ok hr
  obtain ⟨hopen, htook⟩ := hx q hq
  obtain ⟨hopen', htook'⟩ := hf q r hr
  exact ⟨hopen'.trans hopen, htook.append htook'⟩

theorem yields_updated {result : Except UsageError Settings}
    (h : ∀ t, result = .ok t → p.settings.Took letters t) : p.Yields letters (p.updated result) := by
  intro r hr
  cases result with
  | error e => cases hr
  | ok t =>
    obtain rfl := Except.ok.inj hr
    exact ⟨rfl, h t rfl⟩

/-- A flag with a value changes neither. -/
theorem took_of_assign {flag : Flag} {value : Arg} (h : s.assign flag value = .ok t) : s.Took [] t := by
  unfold Settings.assign at h
  split at h
  · cases h
  · cases flag with
    | number which =>
      dsimp only at h
      split at h
      · obtain rfl := Except.ok.inj h
        cases which <;> exact took_of_eq rfl rfl
      · cases h
    | text which =>
      obtain rfl := Except.ok.inj h
      cases which <;> exact took_of_eq rfl rfl
    | choice which =>
      dsimp only at h
      split at h
      · next hchosen =>
        obtain rfl := Except.ok.inj h
        cases which
        · obtain ⟨format, -, rfl⟩ := Option.map_eq_some_iff.1 hchosen
          exact took_of_eq rfl rfl
        · obtain ⟨color, -, rfl⟩ := Option.map_eq_some_iff.1 hchosen
          exact took_of_eq rfl rfl
      · cases h
    | switch which | verbosity | help =>
      obtain rfl := Except.ok.inj h
      exact took_of_eq rfl rfl

theorem took_of_give_json (h : s.give (.switch .json) = .ok t) : s.Took [] t := by
  unfold Settings.give at h
  split at h
  · cases h
  · obtain rfl := Except.ok.inj h
    exact took_of_eq rfl rfl

theorem took_of_give_mark {letter : Char} (hmark : isMark letter = true)
    (h : s.give (markFlag letter) = .ok t) : s.Took [letter] t := by
  unfold Settings.give at h
  split at h
  · cases h
  · rcases isMark_iff.1 hmark with rfl | rfl
    · obtain rfl := Except.ok.inj h
      exact ⟨fun _ => rfl, by simp⟩
    · obtain rfl := Except.ok.inj h
      exact ⟨fun hs => by simp [hs], by simp⟩

/-- What is pending is no flag of the log. -/
theorem yields_resolve (p : Progress) : p.Yields [] p.resolve := by
  intro r hr
  unfold Progress.resolve at hr
  split at hr
  · obtain rfl := Except.ok.inj hr
    exact ⟨rfl, took_of_eq rfl rfl⟩
  · cases hr
  · split at hr
    · next settings hassign =>
      obtain rfl := Except.ok.inj hr
      exact ⟨rfl, took_of_assign hassign⟩
    · cases hr
  · obtain rfl := Except.ok.inj hr
    exact ⟨rfl, took_of_eq rfl rfl⟩

theorem yields_attach (p : Progress) (flag : Flag) (value : Arg) : p.Yields [] (p.attach flag value) := by
  rw [attach_eq]
  exact (yields_resolve p).bind fun q => yields_updated fun t ht => took_of_assign ht

theorem yields_give_json (p : Progress) : p.Yields [] (p.give (.switch .json) true) := by
  rw [give_eq p (by decide)]
  exact (yields_resolve p).bind fun q => yields_updated fun t ht => took_of_give_json ht

/-- A row of letters takes the flags that they stand for. -/
theorem yields_lettered (h : letters.all isMark = true) (p : Progress) :
    p.Yields letters (p.lettered c letters) := by
  induction letters generalizing p with
  | nil =>
    intro r hr
    obtain rfl := Except.ok.inj hr
    exact ⟨rfl, took_of_eq rfl rfl⟩
  | cons letter letters ih =>
    rw [List.all_cons, Bool.and_eq_true] at h
    rw [lettered_cons h.1]
    have hgive (q : Progress) :
        q.Yields [letter] (q.updated (q.settings.give (markFlag letter))) :=
      yields_updated fun t ht => took_of_give_mark h.1 ht
    exact (yields_resolve p).bind fun q => (hgive q).bind (ih h.2)

/-- A word that is no flag takes no flag of the log. -/
theorem yields_plain (p : Progress) (arg : Arg) : p.Yields [] (p.plain arg) := by
  unfold Progress.plain
  split
  · intro r hr
    cases hr
  · refine (yields_resolve p).bind fun q r hr => ?_
    obtain rfl := Except.ok.inj hr
    exact ⟨rfl, took_of_eq rfl rfl⟩

/-- A word in front of the terminator gives the flags of the log that its marks say. -/
theorem yields_read (hopen : p.terminated = false) {arg : Arg} (harg : arg ≠ terminator) :
    p.Yields (marks arg) (p.read c arg) := by
  cases kind_of_open (c := c) harg with
  | refused hmarks h => exact fun r hr => absurd hr (h p r hopen)
  | marked hmarks hawaits h =>
    rw [h p hopen]
    exact yields_lettered (all_isMark_marks arg) p
  | attached flag value hmarks hawaits h =>
    rw [h p hopen, hmarks]
    exact yields_attach p flag value
  | awaiting flag hmarks hawaits h =>
    rw [h p hopen, hmarks]
    refine (yields_resolve p).bind fun q r hr => ?_
    obtain rfl := Except.ok.inj hr
    exact ⟨rfl, took_of_eq rfl rfl⟩
  | json hmarks hawaits h =>
    rw [h p hopen, hmarks]
    exact yields_give_json p
  | plain hmarks hawaits hplain =>
    rw [hmarks]
    by_cases hwaiting : p.Waiting
    · obtain ⟨flag, hflag⟩ := hwaiting
      rw [read_of_waiting hopen hplain hflag]
      intro r hr
      obtain rfl := Except.ok.inj hr
      exact ⟨rfl, took_of_eq rfl rfl⟩
    · rw [read_of_not_waiting hopen hplain hwaiting]
      exact yields_plain p arg

/-- The terminator only says that flags are over. -/
theorem read_terminator (hopen : p.terminated = false) :
    p.read c terminator = .ok { p with terminated := true } := by
  unfold Progress.read
  rw [hopen, if_neg Bool.false_ne_true]
  rfl

/-- Behind the terminator every word is read as one that is no flag. -/
theorem read_behind (hbehind : p.terminated = true) (arg : Arg) : p.read c arg = p.plain arg := by
  unfold Progress.read
  rw [if_pos hbehind]

/-- Behind the terminator no flag is given. -/
theorem yields_foldlM_behind (hbehind : p.terminated = true) (args : List Arg) :
    p.Yields [] (args.foldlM (Progress.read c) p) := by
  induction args generalizing p with
  | nil =>
    intro r hr
    obtain rfl := Except.ok.inj hr
    exact ⟨rfl, took_of_eq rfl rfl⟩
  | cons arg args ih =>
    rw [List.foldlM_cons, read_behind hbehind]
    intro r hr
    obtain ⟨q, hq, hr⟩ := exists_of_bind_eq_ok hr
    obtain ⟨hq', htook⟩ := yields_plain p arg q hq
    obtain ⟨hr', htook'⟩ := ih (hq'.trans hbehind) r hr
    exact ⟨hr'.trans hq', htook.append htook'⟩

theorem front_terminator_cons (args : List Arg) : front (terminator :: args) = [] :=
  List.takeWhile_cons_of_neg (by simp)

theorem front_cons {arg : Arg} (harg : arg ≠ terminator) (args : List Arg) :
    front (arg :: args) = arg :: front args :=
  List.takeWhile_cons_of_pos (by simp [harg])

/-- The flags of the log that a command line gives are those of its first word and of the others. -/
theorem allMarks_cons {arg : Arg} (harg : arg ≠ terminator) (args : List Arg) :
    allMarks (arg :: args) = marks arg ++ allMarks args := by
  rw [allMarks, front_cons harg, List.flatMap_cons, allMarks]

/-- Words one after another give the flags of the log that stand in front of the terminator. -/
theorem took_of_foldlM (hopen : p.terminated = false) {args : List Arg} {r : Progress}
    (h : args.foldlM (Progress.read c) p = .ok r) : p.settings.Took (allMarks args) r.settings := by
  induction args generalizing p with
  | nil =>
    obtain rfl := Except.ok.inj h
    exact took_of_eq rfl rfl
  | cons arg args ih =>
    rw [List.foldlM_cons] at h
    obtain ⟨q, hq, hr⟩ := exists_of_bind_eq_ok h
    by_cases harg : arg = terminator
    · subst harg
      rw [read_terminator hopen] at hq
      obtain rfl := Except.ok.inj hq
      rw [allMarks, front_terminator_cons]
      exact (yields_foldlM_behind rfl args r hr).2
    · obtain ⟨hopen', htook⟩ := yields_read hopen harg q hq
      rw [allMarks_cons harg]
      exact htook.append (ih (hopen'.trans hopen) hr)

end Took

end EvmScope.CommandLine
