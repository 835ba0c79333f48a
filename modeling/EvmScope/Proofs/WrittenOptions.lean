import EvmScope.CommandLine
import EvmScope.Proofs.Fields

/-!
# Options on a command line

The options of a call are written on a command line flag by flag, in any order and with one dash or two,
and the target behind the terminator. Nothing in a value can be mistaken, neither dashes nor equals
signs: the first equals sign of a word ends the name of its flag, and behind the terminator nothing is a
flag. Read again they are the same options, and so they are when a draft is filled in with what was
written.
-/

namespace EvmScope

set_option autoImplicit false

open Text

namespace Text

theorem decimalValue?_digitChar {n : Nat} (h : n < 10) : decimalValue? n.digitChar = some n := by
  revert n
  decide

/-- Digits are read from the left, each with what stands for those in front. -/
theorem readDigits_append (n : Nat) (s t : List Char) :
    readDigits n (s ++ t) = (readDigits n s).bind (readDigits · t) := by
  induction s generalizing n with
  | nil => rfl
  | cons c s ih =>
    rw [List.cons_append, readDigits, readDigits]
    split
    · rfl
    · split
      · exact ih _
      · rfl

/-- One more digit is worth ten times what stands in front of it, if the number still fits. -/
theorem readDigits_snoc {n m d : Nat} {s : List Char} (h : readDigits n s = .ok m) (hd : d < 10)
    (hfits : 10 * m + d < UInt64.size) : readDigits n (s ++ [d.digitChar]) = .ok (10 * m + d) := by
  rw [readDigits_append, h]
  simp only [Except.bind, readDigits, decimalValue?_digitChar hd, if_pos hfits]

/-- The digits of a number of 64 bits are read back as that number. -/
theorem readDigits_decimal {n : Nat} (h : n < UInt64.size) : readDigits 0 (decimal n) = .ok n := by
  induction n using Nat.strongRecOn with
  | ind n ih =>
    rw [decimal]
    by_cases hn : n < 10
    · rw [Nat.toDigits_of_lt_base hn, ← List.nil_append [_],
        readDigits_snoc rfl hn (by omega), Nat.mul_zero, Nat.zero_add]
    · have hvalue : 10 * (n / 10) + n % 10 = n := Nat.div_add_mod n 10
      rw [Nat.toDigits_of_base_le (by decide) (Nat.not_lt.1 hn), ← decimal,
        readDigits_snoc (ih _ (by omega) (by omega)) (by omega) (by omega), hvalue]

theorem readNumber_eq_readDigits {s : List Char} (hne : s ≠ []) (hplus : '+' ∉ s) :
    readNumber s = readDigits 0 s := by
  fun_cases readNumber s with
  | case1 => exact absurd rfl hne
  | case2 => exact absurd List.mem_cons_self hplus
  | case3 => exact absurd List.mem_cons_self hplus
  | case4 => rfl

/-- A number of 64 bits can be read from its digits. -/
theorem readNumber_decimal {n : Nat} (h : n < UInt64.size) : readNumber (decimal n) = .ok n := by
  have hplus : '+' ∉ decimal n := fun hmem => absurd (isDigit_of_mem_decimal hmem) (by decide)
  have hne : decimal n ≠ [] := Nat.toDigits_ne_nil
  rw [readNumber_eq_readDigits hne hplus, readDigits_decimal h]

end Text

namespace CallOptions

def numberOf (o : CallOptions) : CommandLine.NumberFlag → Nat
  | .number => o.number
  | .difficulty => o.difficulty
  | .gaslimit => o.gaslimit
  | .gasprice => o.gasprice
  | .value => o.value

end CallOptions

namespace CommandLine

/-- What a flag says about a call. The target has no flag. -/
inductive Field
  | number (which : NumberFlag)
  | coinbase
  | input
  | origin
  | json
  deriving DecidableEq, Repr

namespace Field

def flag : Field → Flag
  | number which => .number which
  | coinbase => .text .coinbase
  | input => .text .input
  | origin => .text .origin
  | json => .switch .json

/-- What is written for a field, if its flag takes a value. -/
def value? (o : CallOptions) : Field → Option Arg
  | number which => some (decimal (o.numberOf which))
  | coinbase => some o.coinbase
  | input => some o.input
  | origin => some o.origin
  | json => none

/-- A field as it is written, without dashes. -/
def body (o : CallOptions) (f : Field) : Arg :=
  f.flag.name.toList ++ (f.value? o).elim [] ('=' :: ·)

/-- Sets a field of a draft to what it is in some options. -/
def set (o : CallOptions) (d : CallOptions.Draft) : Field → CallOptions.Draft
  | number .number => { d with number := o.number }
  | number .difficulty => { d with difficulty := o.difficulty }
  | number .gaslimit => { d with gaslimit := o.gaslimit }
  | number .gasprice => { d with gasprice := o.gasprice }
  | number .value => { d with value := o.value }
  | coinbase => { d with coinbase := o.coinbase }
  | input => { d with input := o.input }
  | origin => { d with origin := o.origin }
  | json => { d with json := o.json }

/-- Two options of a call are the same in a field. -/
def SameIn (a b : CallOptions) : Field → Prop
  | number which => a.numberOf which = b.numberOf which
  | coinbase => a.coinbase = b.coinbase
  | input => a.input = b.input
  | origin => a.origin = b.origin
  | json => a.json = b.json

end Field

/-- A flag on a command line, with one dash or with two. -/
structure Written where
  field : Field
  doubled : Bool
  deriving DecidableEq, Repr

/-- The word for a flag. -/
def Written.word (o : CallOptions) (w : Written) : Arg :=
  (if w.doubled then ['-', '-'] else ['-']) ++ w.field.body o

/-- The words for a call, behind the name of the program. -/
def commandLine (o : CallOptions) (ws : List Written) : List Arg :=
  Command.exec.name.toList :: ws.map (·.word o) ++ [terminator, o.target]

/-- The draft that is filled in with the fields that are written. -/
def fill (o : CallOptions) (ws : List Written) (d : CallOptions.Draft) : CallOptions.Draft :=
  ws.foldl (fun d w => w.field.set o d) d

/-- Some flags tell the options of a call: none stands there twice, and a field that is left out has its
default. The flag for JSON, which takes no value, stands there exactly if it is wanted. -/
structure Tells (ws : List Written) (o : CallOptions) : Prop where
  once : (ws.map (·.field)).Nodup
  json : .json ∈ ws.map (·.field) ↔ o.json = true
  others : ∀ f, f ∉ ws.map (·.field) → f.SameIn CallOptions.default o

namespace Field

variable {o : CallOptions} {f : Field}

theorem name_ne_nil (f : Field) : f.flag.name.toList ≠ [] := by
  rcases f with (_ | _ | _ | _ | _) | _ | _ | _ | _ <;> decide

theorem body_ne_nil (o : CallOptions) (f : Field) : f.body o ≠ [] :=
  List.append_ne_nil_of_left_ne_nil f.name_ne_nil _

/-- No name of a flag holds an equals sign. -/
theorem name_ne_equals (f : Field) : ∀ c ∈ f.flag.name.toList, (c != '=') = true :=
  List.all_eq_true.1 (by rcases f with (_ | _ | _ | _ | _) | _ | _ | _ | _ <;> rfl)

theorem flagName_body (o : CallOptions) (f : Field) : flagName (f.body o) = f.flag.name.toList := by
  rw [flagName, body, List.takeWhile_append_of_pos f.name_ne_equals]
  cases f.value? o <;> simp

theorem attachment?_body (o : CallOptions) (f : Field) :
    Progress.attachment? (f.body o) = f.value? o := by
  rw [Progress.attachment?, body, List.dropWhile_append_of_pos f.name_ne_equals]
  cases f.value? o <;> simp

/-- The flag of a field is known by its name. -/
theorem ofName?_name (f : Field) : Flag.ofName? .exec f.flag.name.toList = some f.flag := by
  rcases f with (_ | _ | _ | _ | _) | _ | _ | _ | _ <;> rfl

/-- A flag takes a value just when something is written for it. -/
theorem takesValue_flag (o : CallOptions) (f : Field) :
    f.flag.takesValue = (f.value? o).isSome := by
  cases f <;> rfl

theorem allowsSingleDash_body (o : CallOptions) (f : Field) : allowsSingleDash (f.body o) = true := by
  rw [allowsSingleDash, flagName_body]
  rcases f with (_ | _ | _ | _ | _) | _ | _ | _ | _ <;> rfl

/-- A name with one more dash in front is none of those that may have one dash. -/
theorem not_allowsSingleDash_dash (s : List Char) : allowsSingleDash ('-' :: s) = false := by
  have hnames : ∀ name ∈ singleDashNames, name.head? ≠ some '-' := by decide
  rw [allowsSingleDash, Bool.eq_false_iff]
  intro h
  exact hnames _ (List.contains_iff_mem.1 h) rfl

end Field

theorem respell_dash (flag : Arg) :
    respell ('-' :: flag) =
      if allowsSingleDash flag then '-' :: '-' :: flag else '-' :: flag := rfl

namespace Written

variable (o : CallOptions) (w : Written)

/-- However a flag is written, it has two dashes in the end. -/
theorem respell_word : respell (w.word o) = '-' :: '-' :: w.field.body o := by
  obtain ⟨f, doubled⟩ := w
  cases doubled with
  | false =>
    change respell ('-' :: f.body o) = _
    rw [respell_dash, if_pos (f.allowsSingleDash_body o)]
  | true =>
    change respell ('-' :: '-' :: f.body o) = _
    rw [respell_dash, Field.not_allowsSingleDash_dash]
    rfl

theorem word_ne_terminator : w.word o ≠ terminator := by
  intro h
  have hrespell := w.respell_word o
  rw [h] at hrespell
  have hbody : w.field.body o = [] := (List.cons.inj (List.cons.inj hrespell).2).2.symm
  exact w.field.body_ne_nil o hbody

end Written

/-- In front of the terminator each word is respelled, and from there on none is. -/
theorem canonical_append {args : List Arg} (h : terminator ∉ args) (rest : List Arg) :
    canonical (args ++ terminator :: rest) = args.map respell ++ terminator :: rest := by
  induction args with
  | nil => rfl
  | cons arg args ih =>
    rw [List.mem_cons, not_or] at h
    rw [List.cons_append, canonical, if_neg (Ne.symm h.1), ih h.2, List.map_cons, List.cons_append]

/-- With two dashes to all flags, a command line is the flags, the terminator and the target. -/
theorem canonical_commandLine (o : CallOptions) (ws : List Written) :
    canonical (commandLine o ws) =
      Command.exec.name.toList :: ws.map (fun w => '-' :: '-' :: w.field.body o) ++
        [terminator, o.target] := by
  have hwords : terminator ∉ Command.exec.name.toList :: ws.map (·.word o) := by
    rw [List.mem_cons, not_or]
    refine ⟨by decide, fun h => ?_⟩
    obtain ⟨w, -, hw⟩ := List.mem_map.1 h
    exact w.word_ne_terminator o hw
  rw [commandLine, canonical_append hwords, List.map_cons, List.map_map]
  simp only [Function.comp_def, Written.respell_word]
  rfl

section Reading

variable {o : CallOptions} {f : Field}

/-- What is set stays as it was, but for the field that is set. -/
theorem isSet_set_of_ne {g : Field} (hne : g ≠ f) (s : Settings) :
    Settings.isSet { s with call := f.set o s.call } g.flag = s.isSet g.flag := by
  rcases f with (_ | _ | _ | _ | _) | _ | _ | _ | _ <;>
    rcases g with (_ | _ | _ | _ | _) | _ | _ | _ | _ <;>
    simp_all [Field.set, Field.flag, Settings.isSet, Settings.numberOf, Settings.textOf]

theorem assign_number {s : Settings} {which : NumberFlag} {value : Arg} {n : Nat}
    (hunset : s.isSet (.number which) = false) (hread : readNumber value = .ok n) :
    s.assign (.number which) value = .ok (s.setNumber which n) := by
  simp [Settings.assign, hunset, hread]

theorem assign_text {s : Settings} {which : TextFlag} (hunset : s.isSet (.text which) = false)
    (value : Arg) : s.assign (.text which) value = .ok (s.setText which value) := by
  simp [Settings.assign, hunset]

theorem give_json {s : Settings} (hunset : s.isSet (.switch .json) = false) :
    s.give (.switch .json) = .ok { s with call := { s.call with json := true } } := by
  simp [Settings.give, hunset]

/-- A flag that takes a value sets its field. -/
theorem assign_field (hfits : ∀ which, o.numberOf which < UInt64.size) {s : Settings}
    (hunset : s.isSet f.flag = false) {value : Arg} (hvalue : f.value? o = some value) :
    s.assign f.flag value = .ok { s with call := f.set o s.call } := by
  cases f with
  | number which =>
    obtain rfl := Option.some.inj hvalue
    refine (assign_number hunset (readNumber_decimal (hfits which))).trans ?_
    cases which <;> rfl
  | coinbase | input | origin =>
    obtain rfl := Option.some.inj hvalue
    exact assign_text hunset _
  | json => cases hvalue

/-- With nothing pending, a flag does to the settings what it does to them alone. -/
theorem attach_of_assign {s s' : Settings} {flag : Flag} {value : Arg}
    (h : s.assign flag value = .ok s') :
    Progress.attach { settings := s } flag value = .ok { settings := s' } := by
  simp only [Progress.attach, Progress.resolve, bind, Except.bind, h]
  rfl

theorem give_of_give {s s' : Settings} {which : SwitchFlag} (h : s.give (.switch which) = .ok s') :
    Progress.give { settings := s } (.switch which) true = .ok { settings := s' } := by
  simp only [Progress.give, Progress.resolve, bind, Except.bind, h]
  rfl

/-- A word for a field sets that field. -/
theorem read_field (hfits : ∀ which, o.numberOf which < UInt64.size) (hjson : f = .json → o.json = true)
    {s : Settings} (hunset : s.isSet f.flag = false) :
    Progress.read .exec { settings := s } ('-' :: '-' :: f.body o) =
      .ok { settings := { s with call := f.set o s.call } } := by
  have hnamed : Progress.read .exec { settings := s } ('-' :: '-' :: f.body o) =
      Progress.named .exec { settings := s } (flagName (f.body o))
        (Progress.attachment? (f.body o)) := by
    cases hbody : f.body o with
    | nil => exact absurd hbody (f.body_ne_nil o)
    | cons c rest => rfl
  rw [hnamed, Field.flagName_body, Field.attachment?_body, Progress.named, Field.ofName?_name]
  simp only [f.takesValue_flag o]
  cases hvalue : f.value? o with
  | some value =>
    simp only [Option.isSome_some]
    exact attach_of_assign (assign_field hfits hunset hvalue)
  | none =>
    cases f with
    | json =>
      simp only [Option.isSome_none]
      rw [Field.set, hjson rfl]
      exact give_of_give (give_json hunset)
    | number which | coinbase | input | origin => cases hvalue

/-- Words for fields, none of them set before, set them one after another. -/
theorem foldlM_read (hfits : ∀ which, o.numberOf which < UInt64.size) {ws : List Written}
    (honce : (ws.map (·.field)).Nodup) (hjson : .json ∈ ws.map (·.field) → o.json = true)
    {s : Settings} (hunset : ∀ w ∈ ws, s.isSet w.field.flag = false) :
    (ws.map fun w => '-' :: '-' :: w.field.body o).foldlM (Progress.read .exec) { settings := s } =
      .ok { settings := { s with call := fill o ws s.call } } := by
  induction ws generalizing s with
  | nil => rfl
  | cons w ws ih =>
    rw [List.map_cons, List.nodup_cons] at honce
    rw [List.forall_mem_cons] at hunset
    rw [List.map_cons, List.mem_cons] at hjson
    have hread := read_field (f := w.field) hfits (fun h => hjson (.inl h.symm)) hunset.1
    have hrest := ih honce.2 (fun h => hjson (.inr h))
      (s := { s with call := w.field.set o s.call }) fun w' hw' => by
        have hne : w'.field ≠ w.field := fun h => honce.1 (h ▸ List.mem_map_of_mem hw')
        rw [isSet_set_of_ne hne, hunset.2 w' hw']
    rw [List.map_cons, List.foldlM_cons, hread]
    exact hrest

/-- The words for a call set what their flags say, and the target. -/
theorem readSettings_commandLine (hfits : ∀ which, o.numberOf which < UInt64.size)
    {ws : List Written} (htells : Tells ws o) :
    readSettings .exec (canonical (commandLine o ws)).tail =
      .ok { call := { fill o ws {} with target := o.target } } := by
  have hflags := foldlM_read (s := {}) hfits htells.once htells.json.1 fun w _ => by
    rcases w.field with (_ | _ | _ | _ | _) | _ | _ | _ | _ <;> rfl
  rw [canonical_commandLine, List.cons_append, List.tail_cons, readSettings, List.foldlM_append,
    hflags]
  rfl

end Reading

section Completing

variable {o : CallOptions}

/-- The options of a call are equal when their targets are and all their fields. -/
theorem CallOptions_ext {a b : CallOptions} (htarget : a.target = b.target)
    (hfields : ∀ f : Field, f.SameIn a b) : a = b := by
  obtain ⟨target, number, coinbase, difficulty, gaslimit, gasprice, input, origin, value, json⟩ := a
  obtain rfl : target = b.target := htarget
  obtain rfl : number = b.number := hfields (.number .number)
  obtain rfl : difficulty = b.difficulty := hfields (.number .difficulty)
  obtain rfl : gaslimit = b.gaslimit := hfields (.number .gaslimit)
  obtain rfl : gasprice = b.gasprice := hfields (.number .gasprice)
  obtain rfl : value = b.value := hfields (.number .value)
  obtain rfl : coinbase = b.coinbase := hfields .coinbase
  obtain rfl : input = b.input := hfields .input
  obtain rfl : origin = b.origin := hfields .origin
  obtain rfl : json = b.json := hfields .json
  rfl

namespace Field

/-- A field that was set is as it should be. -/
theorem sameIn_set_self (f : Field) (d : CallOptions.Draft) : f.SameIn (f.set o d).complete o := by
  rcases f with (_ | _ | _ | _ | _) | _ | _ | _ | _ <;> rfl

/-- To set a field does no harm to one that is right. -/
theorem SameIn.set {f : Field} {d : CallOptions.Draft} (h : f.SameIn d.complete o) (g : Field) :
    f.SameIn (g.set o d).complete o := by
  rcases f with (_ | _ | _ | _ | _) | _ | _ | _ | _ <;>
    rcases g with (_ | _ | _ | _ | _) | _ | _ | _ | _ <;>
    simp_all [SameIn, Field.set, CallOptions.numberOf, CallOptions.Draft.complete]

/-- Setting a field comes before the defaults are filled in. -/
theorem set_orElse (f : Field) (d e : CallOptions.Draft) :
    (f.set o d).orElse e = f.set o (d.orElse e) := by
  rcases f with (_ | _ | _ | _ | _) | _ | _ | _ | _ <;> rfl

theorem set_target (f : Field) (d : CallOptions.Draft) (target : Option Arg) :
    { f.set o d with target } = f.set o { d with target } := by
  rcases f with (_ | _ | _ | _ | _) | _ | _ | _ | _ <;> rfl

end Field

/-- A draft that is filled in has what is written, and elsewhere what it had before. -/
theorem sameIn_fill {ws : List Written} {f : Field} {d : CallOptions.Draft}
    (h : f ∉ ws.map (·.field) → f.SameIn d.complete o) : f.SameIn (fill o ws d).complete o := by
  induction ws generalizing d with
  | nil => exact h (by simp)
  | cons w ws ih =>
    refine ih fun hlater => ?_
    by_cases hf : f = w.field
    · rw [hf]
      exact w.field.sameIn_set_self d
    · refine Field.SameIn.set (h fun hmem => ?_) w.field
      rcases List.mem_cons.1 hmem with heq | hmem
      · exact hf heq
      · exact hlater hmem

theorem fill_orElse (ws : List Written) (d e : CallOptions.Draft) :
    (fill o ws d).orElse e = fill o ws (d.orElse e) := by
  induction ws generalizing d with
  | nil => rfl
  | cons w ws ih => exact (ih _).trans (congrArg (fill o ws) (w.field.set_orElse d e))

theorem fill_target (ws : List Written) (d : CallOptions.Draft) (target : Option Arg) :
    { fill o ws d with target } = fill o ws { d with target } := by
  induction ws generalizing d with
  | nil => rfl
  | cons w ws ih => exact (ih _).trans (congrArg (fill o ws) (w.field.set_target d target))

/-- What is written and the defaults make up all of the options. -/
theorem complete_fill {ws : List Written} (htells : Tells ws o) :
    { fill o ws {} with target := some o.target }.complete = o := by
  refine CallOptions_ext rfl fun f => ?_
  rw [fill_target]
  refine sameIn_fill fun hleft => ?_
  have hdefault := htells.others f hleft
  cases f <;> exact hdefault

/-- A flag for each field, but for that of JSON if it is not wanted. -/
def everything (o : CallOptions) : List Written :=
  (([.number .number, .number .difficulty, .number .gaslimit, .number .gasprice, .number .value,
    .coinbase, .input, .origin] ++ if o.json then [.json] else []) : List Field).map (⟨·, true⟩)

/-- A command line with a flag for each field tells all of the options. -/
theorem tells_everything (o : CallOptions) : Tells (everything o) o := by
  have hfields : (everything o).map (·.field) =
      [.number .number, .number .difficulty, .number .gaslimit, .number .gasprice, .number .value,
        .coinbase, .input, .origin] ++ if o.json then [.json] else [] := by
    rw [everything, List.map_map]
    exact List.map_id _
  refine ⟨?_, ?_, fun f hf => ?_⟩
  · rw [hfields]
    cases o.json <;> decide
  · rw [hfields]
    cases o.json <;> decide
  · rw [hfields] at hf
    rcases f with (_ | _ | _ | _ | _) | _ | _ | _ | _
    case json =>
      cases hjson : o.json with
      | false => exact hjson.symm
      | true =>
        rw [hjson] at hf
        exact absurd hf (by decide)
    all_goals exact absurd (List.mem_append_left _ (by decide)) hf

/-- **All options of a call can be written on a command line, and are read again as they were.** It
does not matter in which order the flags stand, with how many dashes, and which defaults are left out;
and to fill in a draft that begins with the defaults comes to the same. -/
theorem read_commandLine (o : CallOptions) (hfits : ∀ which, o.numberOf which < UInt64.size) :
    (∃ ws, Tells ws o) ∧ ∀ ws, Tells ws o →
      read (commandLine o ws) = .ok (.exec o {}) ∧
        (fill o ws { CallOptions.Draft.start with target := o.target }).build = .ok o := by
  refine ⟨⟨_, tells_everything o⟩, fun ws htells => ⟨?_, ?_⟩⟩
  · have hwords : canonical (ws.map (·.word o) ++ [terminator, o.target]) =
        (canonical (commandLine o ws)).tail := rfl
    rw [commandLine, List.cons_append, read_command, hwords, readSettings_commandLine hfits htells]
    change Except.ok (Request.exec (CallOptions.Draft.complete _) _) = _
    rw [complete_fill htells]
    rfl
  · have hstart : { CallOptions.Draft.start with target := some o.target } =
        CallOptions.Draft.orElse { target := some o.target } CallOptions.Draft.start := rfl
    rw [hstart, ← fill_orElse, CallOptions.Draft.build_orElse_start,
      ← fill_target ws {} (some o.target), complete_fill htells]

/-- Values that look like flags, empty values, and the largest number there is. -/
theorem read_commandLine_of_dashes :
    let o : CallOptions :=
      { CallOptions.default with
        target := "--json".toList
        number := 18446744073709551615
        coinbase := []
        input := "--=".toList
        origin := "-origin=".toList
        json := true }
    (∀ which, o.numberOf which < UInt64.size) ∧
      read (["exec", "-json", "--origin=-origin=", "-number=18446744073709551615", "--input=--=",
        "-coinbase=", "--", "--json"].map String.toList) = .ok (.exec o {}) := by
  intro o
  have hfits : ∀ which, o.numberOf which < UInt64.size := by
    intro which
    cases which <;> decide
  let ws : List Written :=
    [⟨.json, false⟩, ⟨.origin, true⟩, ⟨.number .number, false⟩, ⟨.input, true⟩, ⟨.coinbase, false⟩]
  have htells : Tells ws o := by
    refine ⟨by decide, by decide, fun f hf => ?_⟩
    rcases f with (_ | _ | _ | _ | _) | _ | _ | _ | _
    case number.difficulty | number.gaslimit | number.gasprice | number.value => rfl
    all_goals exact absurd (by decide) hf
  have hwords : commandLine o ws =
      ["exec", "-json", "--origin=-origin=", "-number=18446744073709551615", "--input=--=",
        "-coinbase=", "--", "--json"].map String.toList := by
    decide +kernel
  exact ⟨hfits, hwords ▸ ((read_commandLine o hfits).2 ws htells).1⟩

end Completing

end CommandLine

end EvmScope
