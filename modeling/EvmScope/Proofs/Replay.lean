import Mathlib.Data.List.Induction
import EvmScope.Trace.StepLog

/-!
# Replay of a logger

A logger carries state from one call to the next: the slots seen at each account, the slot of an
SLOAD that still runs, and a last record that is completed later. Its records can be told without
any of this from the list of the steps alone. The invariant `Logger.Follows` ties the state to the
steps seen so far, and each whole step keeps it.
-/

namespace EvmScope

set_option autoImplicit false

namespace SeenStep

/-- The slot that a step shows, and its value: SSTORE has both on the stack before it runs, SLOAD
the key before and the value after. -/
def sighting? (s : SeenStep) : Option (Word × Word) :=
  if s.before.op = 0x55 then
    match s.before.stack with
    | key :: value :: _ => some (key, value)
    | _ => none
  else if s.before.op = 0x54 then
    match s.before.stack, s.after.stack with
    | key :: _, value :: _ => some (key, value)
    | _, _ => none
  else none

/-- The record of a step that shows some storage. -/
def log (s : SeenStep) (storage : Slots) : StepLog where
  pc := s.before.pc
  op := s.before.op
  gas := s.before.gas
  gasCost := s.before.gas - s.after.gas
  depth := s.before.depth
  error := s.after.result.error?
  stack := s.before.stack
  memory := s.before.memory
  storage := storage

end SeenStep

/-- What some steps have shown of the slots of an account, in order. -/
def sightings (steps : List SeenStep) (a : Address) : List (Word × Word) :=
  steps.filterMap fun s => if s.before.address = a then s.sighting? else none

/-- What a slot of an account holds by the last step that has shown it. -/
def lastSeen? (steps : List SeenStep) (a : Address) (key : Word) : Option Word :=
  (sightings steps a).reverse.lookup key

/-- A step adds what it shows itself, and to its own account only. -/
theorem sightings_snoc (steps : List SeenStep) (s : SeenStep) (a : Address) :
    sightings (steps ++ [s]) a =
      sightings steps a ++ (if s.before.address = a then s.sighting?.toList else []) := by
  rw [sightings, List.filterMap_append]
  congr 1
  split <;> cases hs : s.sighting? <;> simp_all

/-- A step that shows no slot changes nothing of what has been seen. -/
theorem lastSeen?_snoc_of_none {steps : List SeenStep} {s : SeenStep} (h : s.sighting? = none)
    (a : Address) (key : Word) : lastSeen? (steps ++ [s]) a key = lastSeen? steps a key := by
  rw [lastSeen?, sightings_snoc, h]
  simp [lastSeen?]

/-- A step that shows a slot is the last one to show it. -/
theorem lastSeen?_snoc_of_some {steps : List SeenStep} {s : SeenStep} {k v : Word}
    (h : s.sighting? = some (k, v)) (a : Address) (key : Word) :
    lastSeen? (steps ++ [s]) a key =
      if a = s.before.address ∧ key = k then some v else lastSeen? steps a key := by
  rw [lastSeen?, sightings_snoc, h]
  by_cases ha : s.before.address = a
  · by_cases hk : key = k
    · simp [ha, hk]
    · simp [ha, hk, lastSeen?, List.lookup_cons, beq_false_of_ne hk]
  · simp [ha, Ne.symm ha, lastSeen?]

/-- What the record of a step has to show; `seen` are the steps up to that one. -/
structure Shows (seen : List SeenStep) (s : SeenStep) (log : StepLog) : Prop where
  pc : log.pc = s.before.pc
  op : log.op = s.before.op
  gas : log.gas = s.before.gas
  /-- The gas that the step has taken, never less than none. -/
  gasCost : log.gasCost = s.before.gas - s.after.gas
  depth : log.depth = s.before.depth
  stack : log.stack = s.before.stack
  memory : log.memory = s.before.memory
  error : log.error =
    if s.after.result.isRevert then some "execution reverted"
    else if s.after.result.isError then some s.after.result.name
    else none
  noStorage : s.sighting? = none → log.storage = ∅
  /-- Each slot is shown as it was last seen at the account of the step. -/
  storage : s.sighting?.isSome = true →
    ∀ key, log.storage.get? key = lastSeen? seen s.before.address key

theorem shows_log {seen : List SeenStep} {s : SeenStep} {storage : Slots}
    (hnone : s.sighting? = none → storage = ∅)
    (hsome : s.sighting?.isSome = true →
      ∀ key, storage.get? key = lastSeen? seen s.before.address key) :
    Shows seen s (s.log storage) where
  pc := rfl
  op := rfl
  gas := rfl
  gasCost := rfl
  depth := rfl
  stack := rfl
  memory := rfl
  error := rfl
  noStorage := hnone
  storage := hsome

namespace Logger

/-- Takes note of whole steps, one after the other. -/
def replay (l : Logger) (steps : List SeenStep) : Logger :=
  steps.foldl (fun l s => l.witness s.before s.after) l

/-- Steps are noted one by one. -/
theorem replay_snoc (l : Logger) (steps : List SeenStep) (s : SeenStep) :
    l.replay (steps ++ [s]) = (l.replay steps).witness s.before s.after := by
  rw [replay, List.foldl_append]
  rfl

/-- A disabled logger is told of steps in vain. -/
theorem witness_of_disabled {l : Logger} (h : l.enabled = false) (o : Observation)
    (a : Aftermath) : l.witness o a = l := by
  simp [witness, enter, leave, h]

/-- A logger that is switched off notes nothing. -/
theorem replay_of_disabled {l : Logger} (h : l.enabled = false) (steps : List SeenStep) :
    l.replay steps = l := by
  induction steps with
  | nil => rfl
  | cons s steps ih => rw [replay, List.foldl_cons, witness_of_disabled h]; exact ih

/-- A note changes one slot of one account. -/
theorem get?_slotsOf_note (l : Logger) (a b : Address) (k v key : Word) :
    ((l.note a k v).slotsOf b).get? key =
      if b = a ∧ key = k then some v else (l.slotsOf b).get? key := by
  by_cases hb : b = a
  · subst hb
    simp [note, slotsOf]
  · simp [note, slotsOf, hb]

theorem enter_sstore {l : Logger} {o : Observation} {key value : Word} {rest : List Word}
    (hl : l.enabled = true) (hop : o.op = 0x55) (hs : o.stack = key :: value :: rest) :
    l.enter o =
      (l.note o.address key value).append
        (record o ((l.note o.address key value).slotsOf o.address)) := by
  simp [enter, hl, hop, hs, Opcode.sstore]

theorem enter_sload {l : Logger} {o : Observation} {key : Word} {rest : List Word}
    (hl : l.enabled = true) (hop : o.op = 0x54) (hs : o.stack = key :: rest) :
    l.enter o = { l with pending := some (o.address, key) }.append (record o ∅) := by
  simp [enter, hl, hop, hs, Opcode.sstore, Opcode.sload]

/-- Any other step, and one whose operands are missing, is recorded without storage. -/
theorem enter_plain {l : Logger} {o : Observation} (hl : l.enabled = true)
    (hstore : o.op = 0x55 → o.stack.length < 2) (hload : o.op = 0x54 → o.stack = []) :
    l.enter o = l.append (record o ∅) := by
  by_cases hop : o.op = 0x55
  · have hlen := hstore hop
    simp only [enter, hl, hop, Opcode.sstore]
    match hs : o.stack with
    | [] => rfl
    | [_] => rfl
    | _ :: _ :: _ =>
      simp only [hs, List.length_cons] at hlen
      omega
  · by_cases hop' : o.op = 0x54
    · simp [enter, hl, hop', hload hop', Opcode.sstore, Opcode.sload]
    · simp [enter, hl, hop, hop', Opcode.sstore, Opcode.sload]

/-- A record after its step has run. -/
def complete (log : StepLog) (a : Aftermath) : StepLog :=
  { log with gasCost := log.gas - a.gas, error := a.result.error? }

/-- Without a running SLOAD the last record is only completed. -/
theorem leave_append {l : Logger} (hl : l.enabled = true) (hp : l.pending = none) (log : StepLog)
    (a : Aftermath) : (l.append log).leave a = l.append (complete log a) := by
  obtain ⟨enabled, newestFirst, slots, pending⟩ := l
  obtain rfl : enabled = true := hl
  obtain rfl : pending = none := hp
  rfl

/-- A running SLOAD is over once its step has run, whether or not it has left a value. -/
theorem leave_pending {l : Logger} (hl : l.enabled = true) (hp : l.pending = none) (log : StepLog)
    (a : Aftermath) (address : Address) (key : Word) :
    ({ l with pending := some (address, key) }.append log).leave a =
      match a.stack with
      | value :: _ =>
        (l.note address key value).append
          { complete log a with storage := (l.note address key value).slotsOf address }
      | [] => l.append (complete log a) := by
  obtain ⟨enabled, newestFirst, slots, pending⟩ := l
  obtain rfl : enabled = true := hl
  obtain rfl : pending = none := hp
  obtain ⟨gas, stack, result⟩ := a
  cases stack <;> rfl

/-- A step that shows no slot only adds its record. -/
theorem witness_of_none {l : Logger} {s : SeenStep} (hl : l.enabled = true)
    (hp : l.pending = none) (h : s.sighting? = none) :
    l.witness s.before s.after = l.append (s.log ∅) := by
  rw [witness]
  unfold SeenStep.sighting? at h
  by_cases hload : s.before.op = 0x54 ∧ s.before.stack ≠ []
  · -- an SLOAD that has left nothing on the stack
    obtain ⟨hop, hne⟩ := hload
    obtain ⟨key, rest, hs⟩ := List.exists_cons_of_ne_nil hne
    have hs' : s.after.stack = [] := by
      cases hs' : s.after.stack with
      | nil => rfl
      | cons value rest' => simp [hop, hs, hs'] at h
    rw [enter_sload hl hop hs, leave_pending hl hp, hs']
    rfl
  · have hstore : s.before.op = 0x55 → s.before.stack.length < 2 := fun hop => by
      match hs : s.before.stack with
      | [] => simp
      | [_] => simp
      | key :: value :: rest => simp [hop, hs] at h
    have hempty : s.before.op = 0x54 → s.before.stack = [] := fun hop =>
      Classical.byContradiction fun hne => hload ⟨hop, hne⟩
    rw [enter_plain hl hstore hempty]
    exact leave_append hl hp _ _

/-- A step that shows a slot notes its value, and its record has all that is noted so far. -/
theorem witness_of_some {l : Logger} {s : SeenStep} {k v : Word} (hl : l.enabled = true)
    (hp : l.pending = none) (h : s.sighting? = some (k, v)) :
    l.witness s.before s.after =
      (l.note s.before.address k v).append
        (s.log ((l.note s.before.address k v).slotsOf s.before.address)) := by
  rw [witness]
  unfold SeenStep.sighting? at h
  split at h
  · next hop =>
    split at h
    · next key value rest hs =>
      obtain ⟨rfl, rfl⟩ := Prod.mk.inj (Option.some.inj h)
      rw [enter_sstore hl hop hs]
      exact leave_append (l := l.note s.before.address key value) hl hp _ _
    · simp at h
  · split at h
    · next hop =>
      split at h
      · next key rest value rest' hs hs' =>
        obtain ⟨rfl, rfl⟩ := Prod.mk.inj (Option.some.inj h)
        rw [enter_sload hl hop hs, leave_pending hl hp, hs']
        rfl
      · simp at h
    · simp at h

/-- The state of a logger that has been told of some steps: nothing runs, what is noted of a slot is
what was last seen of it, and there is one record for each step. -/
structure Follows (steps : List SeenStep) (l : Logger) : Prop where
  enabled : l.enabled = true
  pending : l.pending = none
  slots : ∀ a key, (l.slotsOf a).get? key = lastSeen? steps a key
  length : l.newestFirst.length = steps.length
  records : ∀ i s log, steps[i]? = some s → l.logs[i]? = some log → Shows (steps.take (i + 1)) s log

theorem follows_nil : Follows [] { enabled := true } where
  enabled := rfl
  pending := rfl
  slots := fun _ _ => rfl
  length := rfl
  records := fun _ _ _ hs => by simp at hs

/-- A new record stands behind all others. -/
theorem logs_append (l : Logger) (log : StepLog) : (l.append log).logs = l.logs ++ [log] :=
  List.reverse_cons

/-- A record that fits the last step can be added to those that fit the steps before. -/
theorem Follows.append {steps : List SeenStep} {s : SeenStep} {l m : Logger} {log : StepLog}
    (h : Follows steps l) (hm : m.newestFirst = l.newestFirst) (henabled : m.enabled = true)
    (hpending : m.pending = none)
    (hslots : ∀ a key, (m.slotsOf a).get? key = lastSeen? (steps ++ [s]) a key)
    (hshows : Shows (steps ++ [s]) s log) : Follows (steps ++ [s]) (m.append log) where
  enabled := henabled
  pending := hpending
  slots := hslots
  length := by simp [Logger.append, hm, h.length]
  records := fun i s' log' hs hlog => by
    have hlen : l.logs.length = steps.length := by rw [logs, List.length_reverse, h.length]
    have hlogs : (m.append log).logs = l.logs ++ [log] := by
      rw [logs_append, logs, hm]
      rfl
    rw [hlogs] at hlog
    by_cases hi : i < steps.length
    · rw [List.getElem?_append_left hi] at hs
      rw [List.getElem?_append_left (hlen ▸ hi)] at hlog
      rw [List.take_append_of_le_length (by omega)]
      exact h.records i s' log' hs hlog
    · have hlast : i = steps.length := by
        have hlt := (List.getElem?_eq_some_iff.1 hs).1
        simp only [List.length_append, List.length_singleton] at hlt
        omega
      subst hlast
      rw [List.getElem?_concat_length] at hs
      rw [← hlen, List.getElem?_concat_length] at hlog
      obtain rfl := Option.some.inj hs
      obtain rfl := Option.some.inj hlog
      rwa [List.take_of_length_le (by simp)]

/-- Each whole step keeps a logger in line with the steps. -/
theorem Follows.witness {steps : List SeenStep} {l : Logger} (h : Follows steps l)
    (s : SeenStep) : Follows (steps ++ [s]) (l.witness s.before s.after) := by
  cases hs : s.sighting? with
  | none =>
    rw [witness_of_none h.enabled h.pending hs]
    refine h.append rfl h.enabled h.pending (fun a key => ?_) (shows_log ?_ ?_)
    · rw [lastSeen?_snoc_of_none hs, h.slots]
    · exact fun _ => rfl
    · exact fun hsome => by simp [hs] at hsome
  | some kv =>
    obtain ⟨k, v⟩ := kv
    rw [witness_of_some h.enabled h.pending hs]
    have hslots : ∀ a key, ((l.note s.before.address k v).slotsOf a).get? key =
        lastSeen? (steps ++ [s]) a key := fun a key => by
      rw [get?_slotsOf_note, lastSeen?_snoc_of_some hs, h.slots]
    refine h.append rfl h.enabled h.pending hslots (shows_log ?_ ?_)
    · exact fun hnone => by simp [hs] at hnone
    · exact fun _ => hslots s.before.address

/-- A logger that begins with nothing follows whatever steps it is shown. -/
theorem Follows.replay (steps : List SeenStep) :
    Follows steps (({ enabled := true } : Logger).replay steps) := by
  induction steps using List.reverseRecOn with
  | nil => exact follows_nil
  | append_singleton steps s ih =>
    rw [replay_snoc]
    exact ih.witness s

end Logger

/-- A logger keeps one record for each step, in order, and each is what a look back over the steps
up to its own tells; no SLOAD is left running between steps. A disabled one keeps nothing. -/
theorem replay_shows_steps (steps : List SeenStep) :
    let l := ({ enabled := true } : Logger).replay steps
    (l.logs.length = steps.length ∧ l.pending = none ∧
      ∀ i s log, steps[i]? = some s → l.logs[i]? = some log →
        Shows (steps.take (i + 1)) s log) ∧
      ({ enabled := false } : Logger).replay steps = { enabled := false } ∧
      (({ enabled := false } : Logger).replay steps).logs = [] := by
  have h := Logger.Follows.replay steps
  have hdisabled := Logger.replay_of_disabled (l := { enabled := false }) rfl steps
  refine ⟨⟨?_, h.pending, h.records⟩, hdisabled, ?_⟩
  · rw [Logger.logs, List.length_reverse, h.length]
  · rw [hdisabled]
    rfl

end EvmScope
