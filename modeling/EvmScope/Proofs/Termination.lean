import EvmScope.Proofs.Holdings

/-!
# Every run ends

A run is allowed a number of steps, but what it does never depends on that number: gas ends it before.
An instruction that goes on in its frame or asks for another one costs some gas, beyond what it hands
on. One that ends its frame may be free, but there are no more of these than there have been frames. So
twice the gas of all frames, together with their number, goes down at each step.
-/

namespace EvmScope

set_option autoImplicit false

namespace Gas

variable (fork : Hardfork) (cold : Bool)

theorem balance_pos : 0 < balance fork cold := by
  have haccess := accountAccess_pos cold
  unfold balance
  split_ifs <;> omega

theorem extCode_pos : 0 < extCode fork cold := by
  have haccess := accountAccess_pos cold
  unfold extCode
  split_ifs <;> omega

theorem extCodeHash_pos : 0 < extCodeHash fork cold := by
  have haccess := accountAccess_pos cold
  unfold extCodeHash
  split_ifs <;> omega

theorem sload_pos : 0 < sload fork cold := by
  unfold sload
  split_ifs <;> omega

theorem sstore_pos (presentIsZero newIsZero unchanged : Bool) :
    0 < sstore fork cold presentIsZero newIsZero unchanged := by
  have hload := sload_pos fork false
  unfold sstore
  split_ifs <;> omega

theorem exp_pos (exponent : Nat) : 0 < exp fork exponent :=
  Nat.lt_of_lt_of_le (by decide) (Nat.le_add_right 10 _)

theorem keccak_pos (n : Nat) : 0 < keccak n :=
  Nat.lt_of_lt_of_le (by decide) (Nat.le_add_right 30 _)

theorem copy_pos {base : Nat} (h : 0 < base) (n : Nat) : 0 < copy base n :=
  Nat.lt_of_lt_of_le h (Nat.le_add_right base _)

theorem log_pos (topics n : Nat) : 0 < log topics n := by
  unfold log
  omega

end Gas

namespace Exec

/-- The frame has spent some gas, unless the computation has failed. -/
def Costs {α : Type} (x : Exec α) : Prop :=
  Pays (fun _ => 1) x

variable {α β : Type}

theorem costs_charge {n : Nat} (h : 0 < n) : Costs (charge n) := by
  intro s a t hcharge
  have hgas := gas_of_charge hcharge
  show t.frame.gas + 1 ≤ s.frame.gas
  omega

theorem costs_get {f : Running → Exec β} (hf : ∀ s, Costs (f s)) : Costs (get >>= f) :=
  fun s => hf s s

/-- What costs some gas costs some with anything behind it. -/
theorem Costs.andThen {x : Exec α} {f : α → Exec β} (hx : Costs x)
    (hf : ∀ a, Keeps SpendsGas (f a)) : Costs (x >>= f) := by
  intro s b u hbind
  obtain ⟨a, t, hfirst, hlast⟩ := of_bind_ok hbind
  have hspent : u.frame.gas ≤ t.frame.gas := (hf a).of_ok hlast
  exact Nat.lt_of_le_of_lt hspent (hx s a t hfirst)

/-- What costs some gas costs some with anything in front of it. -/
theorem Costs.after {x : Exec α} {f : α → Exec β} (hx : Keeps SpendsGas x)
    (hf : ∀ a, Costs (f a)) : Costs (x >>= f) :=
  Pays.bind hx hf

end Exec

namespace Operation

open Exec

variable (env : Env)

theorem costs_executeCopy (source : CopySource) : Costs (executeCopy source) := by
  have h := respected_spendsGas
  exact .after h.pop fun _ => .after h.pop fun _ => .after h.pop fun _ =>
    .after (h.asSize _ _) fun _ => (costs_charge (Gas.copy_pos (by decide) _)).andThen fun _ =>
    keeps_get fun _ => keeps_copyToMemory h _ _ _ _

theorem costs_executeExtCodeCopy : Costs (executeExtCodeCopy env) := by
  have h := respected_spendsGas
  exact .after h.pop fun _ => .after h.pop fun _ => .after h.pop fun _ => .after h.pop fun _ =>
    costs_get fun _ => .after (h.modifyWorld _) fun _ => .after (h.asSize _ _) fun _ =>
    (costs_charge (Gas.copy_pos (Gas.extCode_pos _ _) _)).andThen fun _ =>
    keeps_copyToMemory h _ _ _ _

theorem costs_executeReturnDataCopy : Costs (executeReturnDataCopy env) := by
  have h := respected_spendsGas
  exact .after (h.requireFork env _) fun _ =>
    .after h.pop fun _ => .after h.pop fun _ => .after h.pop fun _ =>
    .after (h.asSize _ _) fun _ => (costs_charge (Gas.copy_pos (by decide) _)).andThen fun _ =>
    keeps_get fun _ => h.bind (h.demand _ _) fun _ => keeps_copyToMemory h _ _ _ _

theorem costs_executeMemoryCopy : Costs (executeMemoryCopy env) := by
  have h := respected_spendsGas
  exact .after (h.requireFork env _) fun _ =>
    .after h.pop fun _ => .after h.pop fun _ => .after h.pop fun _ =>
    .after (h.asSize _ _) fun _ => (costs_charge (Gas.copy_pos (by decide) _)).andThen fun _ =>
    keeps_ite
      (fun _ => h.bind (h.asSize _ _) fun _ => h.bind (h.asSize _ _) fun _ =>
        h.bind (h.grow _ _) fun _ => h.bind (h.read _ _) fun _ => h.write _ _)
      fun _ => h.pure ()

theorem costs_executeAccountQuery {price : Hardfork → Bool → Nat}
    (hprice : ∀ fork cold, 0 < price fork cold) (f : Account → Word) :
    Costs (executeAccountQuery env price f) := by
  have h := respected_spendsGas
  exact .after h.pop fun _ => costs_get fun _ => .after (h.modifyWorld _) fun _ =>
    (costs_charge (hprice _ _)).andThen fun _ => h.push _

theorem costs_executeStorageLoad : Costs (executeStorageLoad env) := by
  have h := respected_spendsGas
  exact .after h.top fun _ => costs_get fun _ => .after (h.modifyWorld _) fun _ =>
    (costs_charge (Gas.sload_pos _ _)).andThen fun _ => h.replaceTop _

theorem costs_executeStorageStore : Costs (executeStorageStore env) := by
  have h := respected_spendsGas
  exact .after h.requireMutable fun _ => .after h.pop fun _ => .after h.pop fun _ =>
    costs_get fun _ => .after (h.modifyWorld _) fun _ =>
    .after (keeps_requireStipend h env) fun _ =>
    (costs_charge (Gas.sstore_pos _ _ _ _ _)).andThen fun _ =>
    keeps_modifyFrame fun _ => Nat.le_refl _

theorem costs_executeTransientStore : Costs (executeTransientStore env) := by
  have h := respected_spendsGas
  exact .after (h.requireFork env _) fun _ => .after h.requireMutable fun _ =>
    (costs_charge (by decide)).andThen fun _ => h.bind h.pop fun _ => h.bind h.pop fun _ =>
    keeps_get fun _ => h.modifyWorld _

theorem costs_executeJump : Costs executeJump := by
  have h := respected_spendsGas
  exact (costs_charge (by decide)).andThen fun _ => h.bind h.pop fun _ =>
    keeps_jumpTo h (fun _ _ => Nat.le_refl _) _

theorem costs_executeJumpIf : Costs executeJumpIf := by
  have h := respected_spendsGas
  exact (costs_charge (by decide)).andThen fun _ => h.bind h.pop fun _ => h.bind h.pop fun _ =>
    keeps_ite (fun _ => keeps_jumpTo h (fun _ _ => Nat.le_refl _) _) fun _ => h.pure ()

theorem costs_executePush (length : Nat) : Costs (executePush length) := by
  have h := respected_spendsGas
  exact (costs_charge (by decide)).andThen fun _ => keeps_get fun _ =>
    h.bind (h.push _) fun _ => keeps_modifyFrame fun _ => Nat.le_refl _

theorem costs_executeDup (n : Nat) : Costs (executeDup n) := by
  have h := respected_spendsGas
  refine (costs_charge (by decide)).andThen fun _ => keeps_get fun s => ?_
  split
  · exact h.fault _
  · exact h.push _

theorem costs_executeSwap (n : Nat) : Costs (executeSwap n) := by
  have h := respected_spendsGas
  refine (costs_charge (by decide)).andThen fun _ => keeps_get fun s => ?_
  dsimp only
  split
  · exact keeps_modifyFrame fun s => h.stack s _
  · exact h.fault _

theorem costs_executeLog (topics : Nat) : Costs (executeLog topics) := by
  have h := respected_spendsGas
  exact .after h.requireMutable fun _ => .after h.pop fun _ => .after h.pop fun _ =>
    .after (h.asSize _ _) fun _ => (costs_charge (Gas.log_pos _ _)).andThen fun _ =>
    h.bind (keeps_discard (h.range _ _)) fun _ => keeps_discard (h.popMany _)

/-- Whether an operation whose price is part of it has one. -/
def isPriced : Operation → Bool
  | unary cost _ | binary cost _ _ | ternary cost _ | observe cost _ _ | query cost _ _ => 0 < cost
  | _ => true

/-- Wherever an operation brings its price with it, the price is not zero. -/
theorem isPriced_ofOpcode (op : Opcode) : (ofOpcode op).isPriced = true :=
  Opcode.of_all (by decide +kernel) op

/-- **Every instruction** that goes on in its frame costs some gas. -/
theorem costs_execute {op : Operation} (hpriced : op.isPriced = true)
    (hmanner : op.manner = .goesOn) : Costs (op.execute env) := by
  have h := respected_spendsGas
  cases op with
  | unary cost f =>
    have hcost : 0 < cost := of_decide_eq_true hpriced
    exact (costs_charge hcost).andThen fun _ => h.bind h.pop fun _ => h.bind (h.push _) fun _ =>
      h.pure _
  | binary cost since f =>
    have hcost : 0 < cost := of_decide_eq_true hpriced
    exact .after (h.requireFork env _) fun _ => (costs_charge hcost).andThen fun _ =>
      h.bind h.pop fun _ => h.bind h.pop fun _ => h.bind (h.push _) fun _ => h.pure _
  | ternary cost f =>
    have hcost : 0 < cost := of_decide_eq_true hpriced
    exact (costs_charge hcost).andThen fun _ => h.bind h.pop fun _ => h.bind h.pop fun _ =>
      h.bind h.pop fun _ => h.bind (h.push _) fun _ => h.pure _
  | exp =>
    exact .after h.pop fun _ => .after h.pop fun _ =>
      (costs_charge (Gas.exp_pos _ _)).andThen fun _ => h.bind (h.push _) fun _ => h.pure _
  | keccak =>
    exact .after h.pop fun _ => .after h.pop fun _ => .after (h.asSize _ _) fun _ =>
      (costs_charge (Gas.keccak_pos _)).andThen fun _ => h.bind (h.range _ _) fun _ =>
      h.bind (h.read _ _) fun _ => h.bind (h.push _) fun _ => h.pure _
  | observe cost since f =>
    have hcost : 0 < cost := of_decide_eq_true hpriced
    exact .after (h.requireFork env _) fun _ => (costs_charge hcost).andThen fun _ =>
      keeps_get fun _ => h.bind (h.push _) fun _ => h.pure _
  | query cost since f =>
    have hcost : 0 < cost := of_decide_eq_true hpriced
    exact .after (h.requireFork env _) fun _ => (costs_charge hcost).andThen fun _ =>
      h.bind h.pop fun _ => keeps_get fun _ => h.bind (h.push _) fun _ => h.pure _
  | balance =>
    exact (costs_executeAccountQuery env Gas.balance_pos _).andThen fun _ => h.pure _
  | extCodeSize =>
    exact (costs_executeAccountQuery env Gas.extCode_pos _).andThen fun _ => h.pure _
  | extCodeHash =>
    exact .after (h.requireFork env _) fun _ =>
      (costs_executeAccountQuery env Gas.extCodeHash_pos _).andThen fun _ => h.pure _
  | extCodeCopy => exact (costs_executeExtCodeCopy env).andThen fun _ => h.pure _
  | copy source => exact (costs_executeCopy source).andThen fun _ => h.pure _
  | returnDataCopy => exact (costs_executeReturnDataCopy env).andThen fun _ => h.pure _
  | memoryCopy => exact (costs_executeMemoryCopy env).andThen fun _ => h.pure _
  | pop =>
    exact (costs_charge (by decide)).andThen fun _ => h.bind (keeps_discard h.pop) fun _ =>
      h.pure _
  | memoryLoad =>
    exact (costs_charge (by decide)).andThen fun _ => h.bind h.pop fun _ =>
      h.bind (h.asSize _ _) fun _ => h.bind (h.grow _ _) fun _ => h.bind (h.read _ _) fun _ =>
      h.bind (h.push _) fun _ => h.pure _
  | memoryStore | memoryStoreByte =>
    exact (costs_charge (by decide)).andThen fun _ => h.bind h.pop fun _ => h.bind h.pop fun _ =>
      h.bind (h.asSize _ _) fun _ => h.bind (h.grow _ _) fun _ => h.bind (h.write _ _) fun _ =>
      h.pure _
  | storageLoad => exact (costs_executeStorageLoad env).andThen fun _ => h.pure _
  | storageStore => exact (costs_executeStorageStore env).andThen fun _ => h.pure _
  | transientStore => exact (costs_executeTransientStore env).andThen fun _ => h.pure _
  | jump => exact costs_executeJump.andThen fun _ => h.pure _
  | jumpIf => exact costs_executeJumpIf.andThen fun _ => h.pure _
  | jumpDestination => exact (costs_charge (by decide)).andThen fun _ => h.pure _
  | push length => exact (costs_executePush length).andThen fun _ => h.pure _
  | dup n => exact (costs_executeDup n).andThen fun _ => h.pure _
  | swap n => exact (costs_executeSwap n).andThen fun _ => h.pure _
  | log topics => exact (costs_executeLog topics).andThen fun _ => h.pure _
  | fail why => exact fun s a t hfail => by cases hfail
  | create salted | call kind | stop | ret | revert | selfDestruct => cases hmanner

/-- An instruction that does not end its frame costs more than it hands on. -/
theorem gas_lt_of_execute {env : Env} {op : Operation} {s t : Running} {signal : Signal}
    (hpriced : op.isPriced = true) (h : op.execute env s = .ok signal t)
    (hgoes : signal = .next ∨ signal.opens = true) :
    t.frame.gas + signal.gas < s.frame.gas := by
  have hmanner := execute_manner h
  rcases hgoes with rfl | hopens
  · exact costs_execute env hpriced hmanner.symm s .next t h
  · rw [Signal.opens_iff.1 hopens] at hmanner
    cases op with
    | call kind => exact pays_executeCall env kind s signal t h
    | create salted => exact pays_executeCreate env salted s signal t h
    | _ => cases hmanner

end Operation

namespace Machine

/-- What goes down at each step. Gas counts twice, because a step that spends some may add a
frame. -/
def potential (m : Machine) : Nat :=
  2 * gasHeld.total m + m.depth

theorem potential_pos (m : Machine) : 0 < m.potential :=
  Nat.lt_of_lt_of_le (Nat.succ_pos _) (Nat.le_add_left _ _)

variable {env : Env} {m m' : Machine}

/-- All frames together have less gas after a step that does not end its frame. -/
theorem gas_total_lt {signal : Signal} {t : Running} (hexec : m.executed env = .ok signal t)
    (hgoes : signal = .next ∨ signal.opens = true) (h : m.step env = .running m') :
    gasHeld.total m' < gasHeld.total m := by
  have hcost : t.frame.gas + signal.gas < m.frame.gas :=
    Operation.gas_lt_of_execute (Operation.isPriced_ofOpcode _) hexec hgoes
  rw [step, hexec] at h
  have hfollow : gasHeld.total m' ≤ gasHeld.total (m.after t) + signal.gas :=
    Holding.total_follow_le h
  simp only [Holding.total, after, gasHeld] at hfollow ⊢
  omega

/-- Each step costs gas, or it leaves a frame for good. -/
theorem potential_step_lt (h : m.step env = .running m') : m'.potential < m.potential := by
  unfold potential
  -- a frame that ends may have cost nothing: there the depth pays for the step
  rcases step_running h with ⟨signal, t, hexec, honward⟩ | ⟨why, t, -, s, waiting, r, w, heq, hm'⟩
  · cases honward with
    | next =>
      have hgas := gas_total_lt hexec (.inl rfl) h
      show 2 * gasHeld.total _ + m.depth < 2 * gasHeld.total m + m.depth
      omega
    | answered hopens purpose r world =>
      have hgas := gas_total_lt hexec (.inr hopens) h
      show 2 * gasHeld.total _ + m.depth < 2 * gasHeld.total m + m.depth
      omega
    | opened hopens invocation gas world saved purpose =>
      have hgas := gas_total_lt hexec (.inr hopens) h
      show 2 * gasHeld.total _ + (m.depth + 1) < 2 * gasHeld.total m + m.depth
      omega
    | @returned how s waiting hwaiting r world =>
      have hgas := Holding.total_step_le (kept_gas env m) h
      have hdepth : m.depth = waiting.length + 2 := congrArg (·.length + 1) hwaiting
      show 2 * gasHeld.total _ + (waiting.length + 1) < 2 * gasHeld.total m + m.depth
      omega
  · have hgas := Holding.total_step_le (kept_gas env m) h
    have hdepth : m.depth = waiting.length + 2 := congrArg (·.length + 1) heq
    have hdepth' : m'.depth = waiting.length + 1 := by rw [hm']; rfl
    omega

end Machine

end EvmScope
