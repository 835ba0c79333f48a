import Mathlib.Data.List.TakeWhile
import EvmScope.Proofs.LogFlags
import EvmScope.Proofs.WrittenOptions

/-!
# Command lines with flags of the log

Flags of the log may stand among the flags of a call in any number and order, on their own or several
behind one dash. Each word does its part of the work, whatever stands around it: one for a field sets
that field, and one for the log raises the verbosity or asks for silence, by its marks.
-/

namespace EvmScope.CommandLine

set_option autoImplicit false

/-- How often a command line raises the verbosity. -/
def raised (words : List Arg) : Nat :=
  (allMarks words).count 'v'

/-- Whether a command line asks for silence. -/
def silenced (words : List Arg) : Bool :=
  (allMarks words).contains 'q'

/-- Settings with the flags of the log that some marks stand for. -/
def Settings.marked (s : Settings) (letters : List Char) : Settings :=
  { s with
    verbosity := min 255 (s.verbosity + letters.count 'v')
    quiet := s.quiet || letters.contains 'q' }

/-- Marks may be given to settings: the verbosity so far is one that can be, and silence is not asked for
twice. -/
structure Settings.Takes (s : Settings) (letters : List Char) : Prop where
  verbosity : s.verbosity ≤ 255
  once : letters.count 'q' ≤ if s.quiet then 0 else 1

/-- The default holds only where no flag raises the verbosity, and it counts as one. -/
theorem count_of_raised (n : Nat) :
    (if min 255 n = 0 then 1 else min 255 n) = max 1 (min 255 n) := by
  split <;> omega

theorem verbosity_logOptions {s : Settings} {n : Nat} (h : s.verbosity = min 255 n) :
    s.logOptions.verbosity = { count := max 1 (min 255 n), quiet := s.quiet } := by
  rw [Settings.logOptions, h, count_of_raised]

section Marking

variable {c : Command} {s : Settings} {letters letters' : List Char}

theorem Settings.marked_nil (h : s.verbosity ≤ 255) : s.marked [] = s := by
  simp [Settings.marked, Nat.min_eq_right h]

/-- Flags of the log that are set one after the other are set together. -/
theorem Settings.marked_append (s : Settings) (letters letters' : List Char) :
    (s.marked letters).marked letters' = s.marked (letters ++ letters') := by
  have hverbosity : min 255 (min 255 (s.verbosity + letters.count 'v') + letters'.count 'v') =
      min 255 (s.verbosity + (letters.count 'v' + letters'.count 'v')) := by
    omega
  simp only [Settings.marked, List.count_append, List.contains_eq_any_beq, List.any_append,
    Bool.or_assoc, hverbosity]

/-- What can be given together can be given in part. -/
theorem Settings.Takes.left (h : s.Takes (letters ++ letters')) : s.Takes letters := by
  refine ⟨h.verbosity, Nat.le_trans ?_ h.once⟩
  rw [List.count_append]
  exact Nat.le_add_right _ _

theorem Settings.Takes.right (h : s.Takes (letters ++ letters')) :
    (s.marked letters).Takes letters' := by
  have honce := h.once
  rw [List.count_append] at honce
  refine ⟨Nat.min_le_left _ _, ?_⟩
  simp only [Settings.marked, Bool.or_eq_true, List.contains_iff_mem]
  split at honce
  · next hquiet =>
    rw [if_pos (.inl hquiet)]
    omega
  · next hquiet =>
    by_cases hq : 'q' ∈ letters
    · have := List.count_pos_iff.2 hq
      rw [if_pos (.inr hq)]
      omega
    · rw [if_neg (by simp [hquiet, hq])]
      omega

/-- What marks do to settings does not touch the call. -/
theorem Settings.Takes.withCall (h : s.Takes letters) (call : CallOptions.Draft) :
    Settings.Takes { s with call } letters :=
  ⟨h.verbosity, h.once⟩

/-- One flag of the log. -/
theorem give_markFlag {letter : Char} (hmark : isMark letter = true) (h : s.Takes [letter]) :
    s.give (markFlag letter) = .ok (s.marked [letter]) := by
  rcases isMark_iff.1 hmark with rfl | rfl
  · simp [markFlag, Settings.give, Settings.isSet, Settings.marked]
  · have hquiet : s.quiet = false := by
      have honce := h.once
      by_contra hquiet
      rw [if_pos (by simpa using hquiet)] at honce
      exact absurd honce (by decide)
    simp [markFlag, Settings.give, Settings.isSet, Settings.marked, hquiet,
      Nat.min_eq_right h.verbosity]

/-- With nothing pending, letters do to the settings what their marks say. -/
theorem lettered_marks (hmarks : letters.all isMark = true) (h : s.Takes letters) :
    Progress.lettered c { settings := s } letters = .ok { settings := s.marked letters } := by
  induction letters generalizing s with
  | nil => rw [Settings.marked_nil h.verbosity]; rfl
  | cons letter letters ih =>
    rw [List.all_cons, Bool.and_eq_true] at hmarks
    have hsplit : s.Takes ([letter] ++ letters) := h
    rw [lettered_cons hmarks.1]
    change ((Progress.updated { settings := s } (s.give (markFlag letter))) >>= _) = _
    rw [give_markFlag hmarks.1 hsplit.left]
    exact (ih hmarks.2 hsplit.right).trans (by rw [Settings.marked_append]; rfl)

end Marking

section Words

variable {c : Command} {p : Progress} {v w arg : Arg}

/-- A word that gives a flag of the log does not end the flags. -/
theorem ne_terminator_of_marks (h : marks arg ≠ []) : arg ≠ terminator := by
  rintro rfl
  exact h rfl

/-- A word that gives flags of the log is read letter by letter, however it spells them. -/
theorem read_of_marks (hopen : p.terminated = false) (h : marks arg ≠ []) :
    p.read c arg = p.lettered c (marks arg) := by
  cases kind_of_open (c := c) (ne_terminator_of_marks h) with
  | marked hmarks hawaits hread => exact hread p hopen
  | refused hmarks | attached flag value hmarks | awaiting flag hmarks | json hmarks | plain hmarks =>
    exact absurd hmarks h

/-- A flag that may have one dash is none of the log. -/
theorem Abbreviates.marks_eq_nil (h : Abbreviates v w) : marks v = [] ∧ marks w = [] := by
  obtain ⟨flag, hname, rfl, rfl⟩ := h
  constructor
  · cases flag with
    | nil => rfl
    | cons letter letters =>
      have hdash : letter ≠ '-' := by
        rintro rfl
        rw [← allowsSingleDash_iff, Field.not_allowsSingleDash_dash] at hname
        cases hname
      have hnames : ∀ name ∈ singleDashNames, name.all isMark = false := by decide
      rw [marks_dash hdash, if_neg]
      intro hall
      have hmarks : (flagName (letter :: letters)).all isMark = true :=
        List.all_eq_true.2 fun l hl =>
          List.all_eq_true.1 hall l ((List.takeWhile_sublist _).subset hl)
      rw [hnames _ hname] at hmarks
      cases hmarks
  · have hother {text : Arg} (htext : flagName text = text) (hnot : text ∉ singleDashNames) :
        flag ≠ text := by
      rintro rfl
      rw [htext] at hname
      exact hnot hname
    rw [marks_dashes, if_neg (hother rfl (by decide)), if_neg]
    rintro (heq | heq)
    · exact hother rfl (by decide) heq
    · exact hother rfl (by decide) heq

/-- The flags of the log that a word gives do not depend on its dashes. -/
theorem marks_respell (v : Arg) : marks (respell v) = marks v := by
  rcases respell_cases v with h | h
  · rw [h]
  · rw [h.marks_eq_nil.1, h.marks_eq_nil.2]

/-- Flags of the log keep their dashes. -/
theorem respell_of_marks (h : marks v ≠ []) : respell v = v := by
  rcases respell_cases v with hv | hv
  · exact hv
  · exact absurd hv.marks_eq_nil.1 h

/-- The flags of a call are none of the log. -/
theorem marks_word (o : CallOptions) (w : Written) : marks (w.word o) = [] := by
  rw [← marks_respell, w.respell_word]
  cases hvalue : w.field.value? o with
  | some value => exact marks_of_attachment? ((w.field.attachment?_body o).trans hvalue)
  | none =>
    have hjson : w.field = .json := by
      cases hfield : w.field <;> rw [hfield] at hvalue <;> first | rfl | cases hvalue
    rw [hjson]
    rfl

end Words

/-- Some words, between which flags of the log may stand. -/
inductive Among : List Arg → List Arg → Prop
  | nil : Among [] []
  | mark {ws words : List Arg} (arg : Arg) (harg : marks arg ≠ []) (h : Among ws words) :
    Among ws (arg :: words)
  | word {ws words : List Arg} (arg : Arg) (h : Among ws words) : Among (arg :: ws) (arg :: words)

theorem among_nil {words : List Arg} (h : ∀ arg ∈ words, marks arg ≠ []) : Among [] words := by
  induction words with
  | nil => exact .nil
  | cons arg words ih =>
    rw [List.forall_mem_cons] at h
    exact .mark arg h.1 (ih h.2)

section Lines

variable {c : Command} {o : CallOptions} {ws : List Written} {words : List Arg} {s : Settings}

/-- Flags of the log bring no terminator with them. -/
theorem Among.terminator_not_mem {ws : List Arg} (h : Among ws words) (hws : terminator ∉ ws) :
    terminator ∉ words := by
  induction h with
  | nil => exact hws
  | mark arg harg h ih =>
    rw [List.mem_cons, not_or]
    exact ⟨(ne_terminator_of_marks harg).symm, ih hws⟩
  | word arg h ih =>
    rw [List.mem_cons, not_or] at hws ⊢
    exact ⟨hws.1, ih hws.2⟩

/-- Flags of the log leave the flags of a call open or set as they were. -/
theorem isSet_marked (s : Settings) (letters : List Char) (f : Field) :
    (s.marked letters).isSet f.flag = s.isSet f.flag := by
  rcases f with (_ | _ | _ | _ | _) | _ | _ | _ | _ <;> rfl

/-- Words for fields, none of them set before, set them one after another, and those between them do
what their marks say. -/
theorem foldlM_among (hfits : ∀ which, o.numberOf which < UInt64.size) (hexec : ws ≠ [] → c = .exec)
    (h : Among (ws.map (·.word o)) words) (honce : (ws.map (·.field)).Nodup)
    (hjson : .json ∈ ws.map (·.field) → o.json = true)
    (hunset : ∀ w ∈ ws, s.isSet w.field.flag = false) (htakes : s.Takes (words.flatMap marks)) :
    (words.map respell).foldlM (Progress.read c) { settings := s } =
      .ok { settings := { s.marked (words.flatMap marks) with call := fill o ws s.call } } := by
  generalize hus : ws.map (·.word o) = us at h
  induction h generalizing ws s with
  | nil =>
    obtain rfl := List.map_eq_nil_iff.1 hus
    rw [List.flatMap_nil, Settings.marked_nil htakes.verbosity]
    rfl
  | mark arg harg h ih =>
    rw [List.flatMap_cons] at htakes ⊢
    have hread : Progress.read c { settings := s } arg = .ok { settings := s.marked (marks arg) } :=
      (read_of_marks rfl harg).trans (lettered_marks (all_isMark_marks arg) htakes.left)
    have hrest := ih hexec honce hjson (fun w hw => (isSet_marked s _ _).trans (hunset w hw))
      htakes.right hus
    rw [List.map_cons, List.foldlM_cons, respell_of_marks harg, hread, ← Settings.marked_append]
    exact hrest
  | word arg h ih =>
    obtain ⟨w, ws, rfl, rfl, rfl⟩ := List.map_eq_cons_iff.1 hus
    obtain rfl := hexec (List.cons_ne_nil w ws)
    rw [List.map_cons, List.nodup_cons] at honce
    rw [List.forall_mem_cons] at hunset
    rw [List.map_cons, List.mem_cons] at hjson
    rw [List.flatMap_cons, marks_word, List.nil_append] at htakes ⊢
    have hread := read_field (f := w.field) hfits (fun h => hjson (.inl h.symm)) hunset.1
    have hrest := ih (s := { s with call := w.field.set o s.call }) (fun _ => rfl) honce.2
      (fun h => hjson (.inr h)) (fun w' hw' => by
        have hne : w'.field ≠ w.field := fun h => honce.1 (h ▸ List.mem_map_of_mem hw')
        rw [isSet_set_of_ne hne, hunset.2 w' hw']) (htakes.withCall _) rfl
    rw [List.map_cons, List.foldlM_cons, w.respell_word, hread]
    exact hrest

theorem terminator_not_mem_of_among (h : Among (ws.map (·.word o)) words) : terminator ∉ words := by
  refine h.terminator_not_mem fun hmem => ?_
  obtain ⟨w, -, hw⟩ := List.mem_map.1 hmem
  exact w.word_ne_terminator o hw

/-- The log options that the flags of the log ask for, all others being the defaults. -/
def markedOptions (words : List Arg) : Log.Options where
  verbosity := { count := max 1 (min 255 (raised words)), quiet := silenced words }

/-- The settings of a command line with flags of the log in any places. -/
theorem readSettings_among (hfits : ∀ which, o.numberOf which < UInt64.size)
    (hexec : ws ≠ [] → c = .exec) (h : Among (ws.map (·.word o)) words)
    (honce : (ws.map (·.field)).Nodup) (hjson : .json ∈ ws.map (·.field) → o.json = true)
    (hquiet : (allMarks words).count 'q' ≤ 1) (target : Arg) :
    ∃ s, readSettings c (canonical (words ++ [terminator, target])) = .ok s ∧
      s.call = { fill o ws {} with target } ∧ s.logOptions = markedOptions words := by
  have hterminator := terminator_not_mem_of_among h
  have hmarks : allMarks words = words.flatMap marks := by
    have hne : ∀ arg ∈ words, decide (arg ≠ terminator) = true := fun arg harg =>
      decide_eq_true fun heq => hterminator (heq ▸ harg)
    rw [allMarks, front, List.takeWhile_eq_self_iff.2 hne]
  have hwords := foldlM_among (s := {}) hfits hexec h honce hjson
    (fun w _ => by rcases w.field with (_ | _ | _ | _ | _) | _ | _ | _ | _ <;> rfl)
    ⟨Nat.zero_le _, hmarks ▸ hquiet⟩
  refine ⟨{ Settings.marked {} (allMarks words) with call := { fill o ws {} with target } }, ?_, rfl, ?_⟩
  · rw [canonical_append hterminator, readSettings, List.foldlM_append, hwords, ← hmarks]
    rfl
  · have hcount : (Settings.marked {} (allMarks words)).verbosity = min 255 (raised words) := by
      rw [Settings.marked, Nat.zero_add, raised]
    refine congrArg (fun verbosity => { verbosity : Log.Options }) (verbosity_logOptions hcount)

/-- A call that is written in full is read as it was, whatever flags of the log stand among its
flags. -/
theorem read_exec_among (hfits : ∀ which, o.numberOf which < UInt64.size) (htells : Tells ws o)
    (h : Among (ws.map (·.word o)) words) (hquiet : (allMarks words).count 'q' ≤ 1) :
    read (Command.exec.name.toList :: words ++ [terminator, o.target]) =
      .ok (.exec o (markedOptions words)) := by
  obtain ⟨s, hs, hcall, hlogs⟩ := readSettings_among (c := .exec) hfits (fun _ => rfl) h htells.once
    htells.json.1 hquiet o.target
  rw [List.cons_append, read_command, hs]
  dsimp only [Settings.request]
  rw [hcall, hlogs, complete_fill htells]

/-- A target is read as it was, whatever flags of the log stand in front of it. -/
theorem read_disasm_among {target : Arg} (h : ∀ arg ∈ words, marks arg ≠ [])
    (hquiet : (allMarks words).count 'q' ≤ 1) :
    read (Command.disasm.name.toList :: words ++ [terminator, target]) =
      .ok (.disasm target (markedOptions words)) := by
  obtain ⟨s, hs, hcall, hlogs⟩ := readSettings_among (c := .disasm) (o := default)
    (fun which => by cases which <;> decide) (fun h : ([] : List Written) ≠ [] => absurd rfl h)
    (among_nil h) List.nodup_nil nofun hquiet target
  rw [List.cons_append, read_command, hs]
  dsimp only [Settings.request]
  rw [hcall, hlogs]
  rfl

end Lines

end EvmScope.CommandLine
