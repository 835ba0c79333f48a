import Mathlib.Tactic.SplitIfs
import EvmScope.Machine

/-!
# What a step does

A step runs one instruction and then goes on in one of few ways: in the same frame, in a frame that
it opens, or in the frame that waits for its own. `Machine.Onward` lists these ways, so that no
property of steps has to look into calls and creations again; `Machine.Granted` keeps account of the
gas that changes hands. The outermost frame moves only when it runs itself: while it waits,
everything happens above it.
-/

namespace EvmScope

set_option autoImplicit false

/-- Whether an instruction asks for another frame. -/
def Signal.opens : Signal → Bool
  | .call _ | .create _ => true
  | _ => false

namespace Precompile

/-- A built-in function never gives back more gas than it was handed. -/
theorem le_of_charge {price gas left : Nat} {data? : Option Bytes} {output : Array UInt8}
    (h : charge price gas data? = .output left output) : left ≤ gas := by
  unfold charge at h
  split at h
  · cases h
  · split at h
    · obtain ⟨rfl, -⟩ := Answer.output.inj h
      exact Nat.sub_le gas price
    · cases h

theorem le_of_raise {fork : Hardfork} {gas left : Nat} {input output : Array UInt8}
    (h : raise fork gas input = .output left output) : left ≤ gas := by
  unfold raise at h
  dsimp only at h
  split_ifs at h
  all_goals exact le_of_charge h

theorem le_of_compress {gas left : Nat} {input output : Array UInt8}
    (h : compress gas input = .output left output) : left ≤ gas := by
  unfold compress at h
  dsimp only at h
  split_ifs at h
  exact le_of_charge h

/-- A built-in function leaves no more gas than it is called with. -/
theorem le_of_call {fork : Hardfork} {a : Address} {b : Builtin} {gas left : Nat}
    {input output : Array UInt8} (hb : builtin? fork a = some b)
    (h : b.call fork gas input = .output left output) : left ≤ gas := by
  have hmem : b ∈ builtins := by
    unfold builtin? at hb
    split at hb
    · cases hb
    · exact List.mem_of_getElem? (Option.filter_eq_some_iff.1 hb).1
  simp only [builtins, List.mem_cons, List.not_mem_nil, or_false] at hmem
  rcases hmem with rfl | rfl | rfl | rfl | rfl | rfl | rfl | rfl | rfl | rfl
  case inr.inr.inr.inr.inl => exact le_of_raise h
  case inr.inr.inr.inr.inr.inr.inr.inr.inl => exact le_of_compress h
  case inr.inr.inr.inr.inr.inr.inr.inr.inr => cases h
  all_goals
    dsimp only at h
    exact le_of_charge h

end Precompile

namespace Machine

/-- Runs one instruction and goes on. -/
def step (env : Env) (m : Machine) : Next :=
  match m.executed env with
  | .ok signal t => (m.after t).follow env signal
  | .error why t => (m.after t).finish env { ending := .fault why, gas := 0 }

/-- How a machine goes on after an instruction that has not failed. -/
inductive Onward (m : Machine) : Signal → Machine → Prop
  | next : Onward m .next m
  /-- What was asked for is refused, or done without a frame of its own. -/
  | answered {signal : Signal} (hopens : signal.opens = true) (purpose : Purpose) (r : FrameResult)
      (world : World) :
      Onward m signal { m with frame := resume m.frame purpose r, world }
  | opened {signal : Signal} (hopens : signal.opens = true) (invocation : Invocation) (gas : Nat)
      (world saved : World) (purpose : Purpose) :
      Onward m signal
        { frame := { invocation, gas }, world, waiting := ⟨m.frame, saved, purpose⟩ :: m.waiting }
  | returned {how : Halt} {s : Suspended} {waiting : List Suspended}
      (hwaiting : m.waiting = s :: waiting) (r : FrameResult) (world : World) :
      Onward m (.halt how) { frame := resume s.frame s.purpose r, world, waiting }

/-- How a machine goes on that has asked for another frame and handed it some gas. -/
inductive Granted (m : Machine) (gas : Nat) : Machine → Prop
  /-- What was asked for is refused, or done without a frame of its own. -/
  | answered (purpose : Purpose) (r : FrameResult) (world : World) (hgas : r.gas ≤ gas)
      (hrefund : r.refund = 0) : Granted m gas { m with frame := resume m.frame purpose r, world }
  | opened (invocation : Invocation) (world saved : World) (purpose : Purpose) :
      Granted m gas
        { frame := { invocation, gas }, world, waiting := ⟨m.frame, saved, purpose⟩ :: m.waiting }

variable {env : Env} {m m' : Machine} {r r' : FrameResult}

/-- Gas that is handed to another frame is one of the ways to go on. -/
theorem Granted.onward {signal : Signal} {gas : Nat} (h : Granted m gas m')
    (hopens : signal.opens = true) : Onward m signal m' := by
  cases h with
  | answered purpose r world hgas hrefund => exact .answered hopens purpose r world
  | opened invocation world saved purpose => exact .opened hopens invocation gas world saved purpose

/-- To settle a result costs gas, if anything. -/
theorem settle_le (env : Env) (purpose : Purpose) (w : World) (r : FrameResult) :
    (settle env purpose w r).1.gas ≤ r.gas ∧ (settle env purpose w r).1.refund = r.refund := by
  cases purpose with
  | call outOffset outLength => exact ⟨Nat.le_refl _, rfl⟩
  | creation address =>
    simp only [settle]
    split
    · unfold deposit
      dsimp only
      split
      · exact ⟨Nat.le_refl _, rfl⟩
      · split
        · exact ⟨Nat.le_refl _, rfl⟩
        · split
          · exact ⟨Nat.sub_le _ _, rfl⟩
          · split <;> exact ⟨Nat.le_refl _, rfl⟩
    · exact ⟨Nat.le_refl _, rfl⟩

/-- A frame that ends hands its result to the frame that waits for it, or less than that. -/
theorem finish_settled (h : m.finish env r = .running m') :
    ∃ s waiting r' world, m.waiting = s :: waiting ∧
      m' = { frame := resume s.frame s.purpose r', world, waiting } ∧
      r'.gas ≤ r.gas ∧ r'.refund = r.refund := by
  unfold finish at h
  cases hwaiting : m.waiting with
  | nil => simp [hwaiting] at h
  | cons s waiting =>
    simp only [hwaiting, Next.running.injEq] at h
    obtain ⟨hgas, hrefund⟩ := settle_le env s.purpose m.world r
    exact ⟨s, waiting, _, _, rfl, h.symm, hgas, hrefund⟩

/-- A frame that ends hands its result to the frame that waits for it. -/
theorem finish_running (h : m.finish env r = .running m') :
    ∃ s waiting r' world, m.waiting = s :: waiting ∧
      m' = { frame := resume s.frame s.purpose r', world, waiting } := by
  obtain ⟨s, waiting, r', world, hwaiting, hm', -, -⟩ := finish_settled h
  exact ⟨s, waiting, r', world, hwaiting, hm'⟩

/-- A machine is over when its outermost frame is. -/
theorem finish_finished (h : m.finish env r = .finished r') : m.waiting = [] ∧ r' = r := by
  unfold finish at h
  cases hwaiting : m.waiting with
  | nil =>
    simp only [hwaiting, Next.finished.injEq] at h
    exact ⟨rfl, h.symm⟩
  | cons s waiting => simp [hwaiting] at h

/-- A call is answered on the spot, or opens a frame, or aborts the run. -/
theorem openCall_granted (env : Env) (m : Machine) (q : CallRequest) :
    (∃ m', m.openCall env q = .running m' ∧ Granted m q.gas m') ∨
      ∃ why, m.openCall env q = .aborted why := by
  unfold openCall
  dsimp only
  generalize (if q.movesValue then m.world.transfer? q.caller q.target q.value
    else some m.world) = moved
  split
  · exact .inl ⟨_, rfl, .answered _ _ _ (Nat.le_refl _) rfl⟩
  · cases moved with
    | none => exact .inl ⟨_, rfl, .answered _ _ _ (Nat.le_refl _) rfl⟩
    | some world =>
      dsimp only
      split
      · next builtin hbuiltin =>
        cases hcall : builtin.call env.fork q.gas q.input with
        | output gas output =>
          exact .inl ⟨_, rfl, .answered _ _ _ (Precompile.le_of_call hbuiltin hcall) rfl⟩
        | failed why => exact .inl ⟨_, rfl, .answered _ _ _ (Nat.zero_le _) rfl⟩
        | aborted why => exact .inr ⟨why, rfl⟩
      · split
        · exact .inl ⟨_, rfl, .answered _ _ _ (Nat.le_refl _) rfl⟩
        · exact .inl ⟨_, rfl, .opened _ _ _ _⟩

/-- A call is answered on the spot, or opens a frame, or aborts the run. -/
theorem openCall_cases (env : Env) (m : Machine) (q : CallRequest) :
    (∃ m', m.openCall env q = .running m' ∧ Onward m (.call q) m') ∨
      ∃ why, m.openCall env q = .aborted why :=
  (openCall_granted env m q).imp_left fun ⟨m', hm', hgranted⟩ => ⟨m', hm', hgranted.onward rfl⟩

/-- A creation is answered on the spot, or opens a frame. -/
theorem openCreation_granted (env : Env) (m : Machine) (q : CreateRequest) :
    ∃ m', m.openCreation env q = .running m' ∧ Granted m q.gas m' := by
  unfold openCreation
  dsimp only
  split
  · exact ⟨_, rfl, .answered _ _ _ (Nat.le_refl _) rfl⟩
  · split
    · exact ⟨_, rfl, .answered _ _ _ (Nat.le_refl _) rfl⟩
    · split
      · exact ⟨_, rfl, .answered _ _ _ (Nat.le_refl _) rfl⟩
      · split
        · exact ⟨_, rfl, .answered _ _ _ (Nat.le_refl _) rfl⟩
        · exact ⟨_, rfl, .opened _ _ _ _⟩

/-- A creation is answered on the spot, or opens a frame. -/
theorem openCreation_running (env : Env) (m : Machine) (q : CreateRequest) :
    ∃ m', m.openCreation env q = .running m' ∧ Onward m (.create q) m' := by
  obtain ⟨m', hm', hgranted⟩ := openCreation_granted env m q
  exact ⟨m', hm', hgranted.onward rfl⟩

/-- A machine that goes on has opened a frame, closed one, or stayed in its own. -/
theorem follow_running {signal : Signal} (h : m.follow env signal = .running m') :
    Onward m signal m' := by
  cases signal with
  | next =>
    cases h
    exact .next
  | call q =>
    rcases openCall_cases env m q with ⟨m₁, hm₁, honward⟩ | ⟨why, habort⟩
    · cases hm₁.symm.trans h
      exact honward
    · cases habort.symm.trans h
  | create q =>
    obtain ⟨m₁, hm₁, honward⟩ := openCreation_running env m q
    cases hm₁.symm.trans h
    exact honward
  | halt how =>
    obtain ⟨s, waiting, r', world, hwaiting, rfl⟩ := finish_running h
    exact .returned hwaiting r' world

/-- Only the outermost frame ends a run, and only of its own accord. -/
theorem follow_finished {signal : Signal} (h : m.follow env signal = .finished r) :
    m.waiting = [] ∧ ∃ how, signal = .halt how ∧ r = haltResult m.frame how := by
  cases signal with
  | next => cases h
  | call q =>
    rcases openCall_cases env m q with ⟨m₁, hm₁, -⟩ | ⟨why, habort⟩
    · cases hm₁.symm.trans h
    · cases habort.symm.trans h
  | create q =>
    obtain ⟨m₁, hm₁, -⟩ := openCreation_running env m q
    cases hm₁.symm.trans h
  | halt how =>
    obtain ⟨hwaiting, hr⟩ := finish_finished h
    exact ⟨hwaiting, how, rfl, hr⟩

/-- What a step has done that does not end the run. -/
theorem step_running (h : m.step env = .running m') :
    (∃ signal t, m.executed env = .ok signal t ∧ Onward (m.after t) signal m') ∨
      ∃ why t, m.executed env = .error why t ∧
        ∃ s waiting r world, m.waiting = s :: waiting ∧
          m' = { frame := resume s.frame s.purpose r, world, waiting } := by
  rw [step] at h
  cases hexec : m.executed env with
  | ok signal t =>
    rw [hexec] at h
    have honward := follow_running h
    exact .inl ⟨signal, t, rfl, honward⟩
  | error why t =>
    rw [hexec] at h
    have hreturned := finish_running h
    exact .inr ⟨why, t, rfl, hreturned⟩

end Machine

/-- A frame is at the same place of the same code as another one. -/
structure Frame.SamePlace (f g : Frame) : Prop where
  invocation : g.invocation = f.invocation
  pc : g.pc = f.pc

namespace Machine

/-- A frame that goes on with a result is where it has waited. -/
theorem samePlace_resume (f : Frame) (purpose : Purpose) (r : FrameResult) :
    f.SamePlace (resume f purpose r) := by
  cases purpose with
  | call outOffset outLength =>
    simp only [resume, resumeCall]
    split <;> exact ⟨rfl, rfl⟩
  | creation address =>
    simp only [resume, resumeCreation]
    split
    · exact ⟨rfl, rfl⟩
    · split <;> exact ⟨rfl, rfl⟩

end Machine

end EvmScope
