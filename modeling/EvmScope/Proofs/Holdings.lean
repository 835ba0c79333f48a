import EvmScope.Proofs.Manner

/-!
# Gas and refunds in play

Gas is taken from the frame that runs, handed to a frame that it asks for, and handed back from there.
On none of these ways does it become more: a call that adds a stipend has paid more than that for the
value it moves. Refunds go from a frame to the one that waits for it, and only SSTORE and SELFDESTRUCT
make any. `Machine.Holding` has what the two have in common, so that one lemma about steps serves for
both: what all frames hold together never grows, unless the running instruction makes some itself.
-/

namespace EvmScope

set_option autoImplicit false

/-- The gas that an instruction hands to the frame that it asks for. -/
def Signal.gas : Signal → Nat
  | .call q => q.gas
  | .create q => q.gas
  | _ => 0

theorem Signal.gas_eq_zero {signal : Signal} (h : signal.opens = false) : signal.gas = 0 := by
  cases signal with
  | next | halt how => rfl
  | call q | create q => cases h

namespace Gas

/-- What a call with value gives away is less than what it costs, so that gas never grows by calls. -/
theorem stipend_lt_call (fork : Hardfork) (cold newAccount : Bool) :
    stipend < call fork cold true newAccount := by
  simp only [stipend, call, if_true]
  omega

theorem accountAccess_pos (cold : Bool) : 0 < accountAccess cold := by
  cases cold <;> decide

theorem call_pos (fork : Hardfork) (cold movesValue newAccount : Bool) :
    0 < call fork cold movesValue newAccount := by
  have haccess := accountAccess_pos cold
  unfold call
  split_ifs <;> omega

theorem creation_pos (salted : Bool) (n : Nat) : 0 < if salted then create2 n else create := by
  unfold create2 create
  split_ifs <;> omega

end Gas

namespace Exec

/-- The frame has no more gas than before. -/
def SpendsGas (s t : Running) : Prop :=
  t.frame.gas ≤ s.frame.gas

theorem respected_spendsGas : Respected SpendsGas where
  refl _ := Nat.le_refl _
  trans _ _ _ hst htu := Nat.le_trans htu hst
  gas _ _ := Nat.sub_le _ _
  stack _ _ := Nat.le_refl _
  memory _ _ := Nat.le_refl _
  world _ _ := Nat.le_refl _

/-- The frame has the refund that it had. -/
def SameRefund (s t : Running) : Prop :=
  t.frame.refund = s.frame.refund

theorem respected_sameRefund : Respected SameRefund where
  refl _ := rfl
  trans _ _ _ hst htu := Eq.trans htu hst
  gas _ _ := rfl
  stack _ _ := rfl
  memory _ _ := rfl
  world _ _ := rfl

/-- The frame has paid for what a computation gives, as far as that is owed. -/
def Pays {α : Type} (owed : α → Nat) (x : Exec α) : Prop :=
  ∀ s a t, x s = .ok a t → t.frame.gas + owed a ≤ s.frame.gas

variable {α β : Type} {owed : β → Nat}

/-- What the last part of a computation owes is paid in the last part. -/
theorem Pays.bind {x : Exec α} {f : α → Exec β} (hx : Keeps SpendsGas x)
    (hf : ∀ a, Pays owed (f a)) : Pays owed (x >>= f) := by
  intro s b u hbind
  obtain ⟨a, t, hfirst, hlast⟩ := of_bind_ok hbind
  have hspent : t.frame.gas ≤ s.frame.gas := hx.of_ok hfirst
  exact Nat.le_trans (hf a t b u hlast) hspent

/-- Who has paid more has paid less, too. -/
theorem Pays.mono {x : Exec β} {owed' : β → Nat} (h : Pays owed' x) (hle : ∀ b, owed b ≤ owed' b) :
    Pays owed x :=
  fun s b t hx => Nat.le_trans (Nat.add_le_add_left (hle b) _) (h s b t hx)

theorem gas_of_charge {n : Nat} {s t : Running} (h : charge n s = .ok () t) :
    t.frame.gas + n = s.frame.gas := by
  obtain ⟨hle, rfl⟩ := charge_ok h
  exact Nat.sub_add_cancel hle

end Exec

namespace Operation

open Exec

/-- A call pays for more than the gas that it forwards, even with a stipend. -/
theorem pays_chargeCall (env : Env) (kind : CallKind) (address : Address) (value : Word)
    (requested : Nat) : Pays (· + 1) (chargeCall env kind address value requested) := by
  intro s gas t h
  obtain ⟨_, _, hget, hrest⟩ := of_bind_ok (x := get) h
  cases hget
  obtain ⟨⟨⟩, u, hworld, hrest⟩ := of_bind_ok (x := modifyWorld _) hrest
  obtain ⟨⟨⟩, v, hprice, hrest⟩ := of_bind_ok (x := charge _) hrest
  obtain ⟨_, _, hget, hrest⟩ := of_bind_ok (x := get) hrest
  cases hget
  obtain ⟨⟨⟩, w, hforward, hpure⟩ := of_bind_ok (x := charge _) hrest
  obtain ⟨rfl, rfl⟩ := of_pure_ok hpure
  have hsame : u.frame.gas = s.frame.gas := by cases hworld; rfl
  have hpriced := gas_of_charge hprice
  have hforwarded := gas_of_charge hforward
  show w.frame.gas + ((if value != 0 then _ + Gas.stipend else _) + 1) ≤ s.frame.gas
  split
  · next hvalue =>
    -- the stipend is paid for with what it costs to move a value
    rw [hvalue] at hpriced
    have hstipend := Gas.stipend_lt_call env.fork (s.world.isCold address)
      (decide (kind = CallKind.call) && s.world.isNew env.fork address)
    omega
  · have hprice := Gas.call_pos env.fork (s.world.isCold address) (value != 0)
      (decide (kind = CallKind.call) && s.world.isNew env.fork address)
    omega

/-- CALL, CALLCODE, DELEGATECALL and STATICCALL pay for more than they forward. -/
theorem pays_executeCall (env : Env) (kind : CallKind) :
    Pays (·.gas + 1) (executeCall env kind) := by
  have h := respected_spendsGas
  refine .bind (h.requireFork env _) fun _ => .bind (keeps_callOperands h kind) fun o => ?_
  intro s signal t hcall
  obtain ⟨gas, u, hcharge, hrest⟩ := of_bind_ok (x := chargeCall _ _ _ _ _) hcall
  obtain ⟨_, _, hget, hpure⟩ := of_bind_ok (x := get) hrest
  cases hget
  obtain ⟨rfl, rfl⟩ := of_pure_ok hpure
  have hpaid := pays_chargeCall env kind o.address o.value o.requested s gas u hcharge
  cases kind <;> exact hpaid

/-- CREATE and CREATE2 pay for more than the gas of the init code. -/
theorem pays_executeCreate (env : Env) (salted : Bool) :
    Pays (·.gas + 1) (executeCreate env salted) := by
  have h := respected_spendsGas
  refine .bind h.requireMutable fun _ => .bind (h.requireFork env _) fun _ => .bind h.pop fun _ =>
    .bind h.pop fun _ => .bind h.pop fun _ => .bind (h.asSize _ _) fun length =>
    .bind (keeps_chargeInitCode h env _) fun _ => .bind (h.range _ _) fun _ =>
    .bind (h.read _ _) fun _ => .bind (keeps_popSalt h salted) fun _ => ?_
  intro s signal t hcreate
  obtain ⟨⟨⟩, u, hprice, hrest⟩ := of_bind_ok (x := charge _) hcreate
  obtain ⟨_, _, hget, hrest⟩ := of_bind_ok (x := get) hrest
  cases hget
  obtain ⟨⟨⟩, v, hcharge, hrest⟩ := of_bind_ok (x := charge _) hrest
  obtain ⟨_, _, hget, hpure⟩ := of_bind_ok (x := get) hrest
  cases hget
  obtain ⟨rfl, rfl⟩ := of_pure_ok hpure
  have hpriced := gas_of_charge hprice
  have hsent := gas_of_charge hcharge
  have hpos := Gas.creation_pos salted length
  show v.frame.gas + (Gas.forwardable env.fork u.frame.gas + 1) ≤ s.frame.gas
  omega

/-- No instruction leaves its frame with more gas. -/
theorem spendsGas_execute (env : Env) (op : Operation) : Keeps SpendsGas (op.execute env) :=
  keeps_execute respected_spendsGas env op (fun _ _ _ => Nat.le_refl _) fun _ _ _ => Nat.le_refl _

/-- **Every instruction** pays for the gas that it hands on. -/
theorem pays_execute (env : Env) (op : Operation) : Pays Signal.gas (op.execute env) := by
  cases hmanner : op.manner with
  | opens =>
    cases op with
    | call kind => exact (pays_executeCall env kind).mono fun _ => Nat.le_succ _
    | create salted => exact (pays_executeCreate env salted).mono fun _ => Nat.le_succ _
    | _ => cases hmanner
  | goesOn | endsWell | reverts =>
    intro s signal t h
    have hspent : t.frame.gas ≤ s.frame.gas := (spendsGas_execute env op).of_ok h
    have hcloses : signal.opens = false := by
      rw [← Bool.not_eq_true, Signal.opens_iff, execute_manner h, hmanner]
      decide
    rw [Signal.gas_eq_zero hcloses]
    exact hspent

/-- The only opcodes that add to the refund are SSTORE and SELFDESTRUCT. -/
theorem addsRefund_ofOpcode (op : Opcode) :
    (ofOpcode op).addsRefund = (op == 0x55 || op == 0xff) :=
  Opcode.of_all (by decide +kernel) op

/-- Only SSTORE and SELFDESTRUCT make refunds. -/
theorem sameRefund_execute (env : Env) {op : Opcode} (hstore : op ≠ 0x55) (hdestroy : op ≠ 0xff) :
    Keeps SameRefund ((ofOpcode op).execute env) := by
  refine keeps_execute respected_sameRefund env _ (fun _ _ _ => rfl) fun hadds => ?_
  rw [addsRefund_ofOpcode] at hadds
  simp [hstore, hdestroy] at hadds

end Operation

namespace Machine

/-- Something that frames hold and hand to each other, where it does not become more. -/
structure Holding where
  ofFrame : Frame → Nat
  ofResult : FrameResult → Nat
  /-- What a frame gets that is asked for with some gas. -/
  sent : Nat → Nat
  opened_le : ∀ invocation gas, ofFrame { invocation, gas } ≤ sent gas
  answered_le : ∀ {r : FrameResult} {gas : Nat}, r.gas ≤ gas → r.refund = 0 → ofResult r ≤ sent gas
  resumed_le : ∀ f purpose r, ofFrame (resume f purpose r) ≤ ofFrame f + ofResult r
  halted_le : ∀ f how, ofResult (haltResult f how) ≤ ofFrame f
  fault_eq : ∀ why, ofResult { ending := .fault why, gas := 0 } = 0
  settled_le : ∀ {r r' : FrameResult}, r'.gas ≤ r.gas → r'.refund = r.refund →
    ofResult r' ≤ ofResult r

/-- Gas, which a frame hands to the one that it asks for. -/
def gasHeld : Holding where
  ofFrame := Frame.gas
  ofResult := FrameResult.gas
  sent gas := gas
  opened_le _ _ := Nat.le_refl _
  answered_le hgas _ := hgas
  resumed_le f purpose r := by
    cases purpose with
    | call outOffset outLength =>
      simp only [resume, resumeCall]
      split <;> simp
    | creation address =>
      simp only [resume, resumeCreation]
      split_ifs <;> simp
  halted_le f how := by cases how <;> exact Nat.le_refl _
  fault_eq _ := rfl
  settled_le hgas _ := hgas

/-- Refunds, of which a frame that is asked for has none at first. -/
def refundHeld : Holding where
  ofFrame := Frame.refund
  ofResult := FrameResult.refund
  sent _ := 0
  opened_le _ _ := Nat.le_refl _
  answered_le _ hrefund := Nat.le_of_eq hrefund
  resumed_le f purpose r := by
    cases purpose with
    | call outOffset outLength =>
      simp only [resume, resumeCall]
      split_ifs <;> simp
    | creation address =>
      simp only [resume, resumeCreation]
      split_ifs <;> simp
  halted_le f how := by cases how <;> simp [haltResult]
  fault_eq _ := rfl
  settled_le _ hrefund := Nat.le_of_eq hrefund

namespace Holding

variable (q : Holding)

/-- What all frames hold together. -/
def total (m : Machine) : Nat :=
  q.ofFrame m.frame + (m.waiting.map fun s => q.ofFrame s.frame).sum

/-- The running frame holds no more than all frames together. -/
theorem ofFrame_le_total (m : Machine) : q.ofFrame m.frame ≤ q.total m :=
  Nat.le_add_right _ _

variable {q} {env : Env} {m m' : Machine}

/-- What is asked for comes out of what it is asked for with. -/
theorem total_le_of_granted {gas : Nat} (h : Granted m gas m') :
    q.total m' ≤ q.total m + q.sent gas := by
  cases h with
  | answered purpose r world hgas hrefund =>
    have hresumed := q.resumed_le m.frame purpose r
    have hanswered := q.answered_le hgas hrefund
    simp only [total]
    omega
  | opened invocation world saved purpose =>
    have hopened := q.opened_le invocation gas
    simp only [total, List.map_cons, List.sum_cons]
    omega

/-- The frame that waits gets no more than the result has. -/
theorem total_le_of_finish {r : FrameResult} (h : m.finish env r = .running m') :
    q.total m' ≤ q.ofResult r + (m.waiting.map fun s => q.ofFrame s.frame).sum := by
  obtain ⟨s, waiting, r', world, hwaiting, rfl, hgas, hrefund⟩ := finish_settled h
  have hresumed := q.resumed_le s.frame s.purpose r'
  have hsettled := q.settled_le hgas hrefund
  simp only [total, hwaiting, List.map_cons, List.sum_cons]
  omega

/-- The running instruction makes none of it. -/
def Kept (q : Holding) (env : Env) (m : Machine) : Prop :=
  ∀ signal t, m.executed env = .ok signal t →
    q.ofFrame t.frame + q.sent signal.gas ≤ q.ofFrame m.frame

/-- What frames have together when a machine goes on comes out of what they had, and of what the
instruction has sent. -/
theorem total_follow_le {signal : Signal} (h : m.follow env signal = .running m') :
    q.total m' ≤ q.total m + q.sent signal.gas := by
  cases signal with
  | next =>
    cases h
    exact Nat.le_add_right _ _
  | call request =>
    rcases openCall_granted env m request with ⟨m₁, hm₁, hgranted⟩ | ⟨why, habort⟩
    · cases hm₁.symm.trans h
      exact total_le_of_granted hgranted
    · cases habort.symm.trans h
  | create request =>
    obtain ⟨m₁, hm₁, hgranted⟩ := openCreation_granted env m request
    cases hm₁.symm.trans h
    exact total_le_of_granted hgranted
  | halt how =>
    have hfinish := total_le_of_finish (q := q) h
    calc q.total m'
        ≤ q.ofResult (haltResult m.frame how) +
            (m.waiting.map fun s => q.ofFrame s.frame).sum := hfinish
      _ ≤ q.total m := Nat.add_le_add_right (q.halted_le m.frame how) _
      _ ≤ q.total m + q.sent (Signal.halt how).gas := Nat.le_add_right _ _

/-- Frames together have no more of it after a step. -/
theorem total_step_le (hkept : q.Kept env m) (h : m.step env = .running m') :
    q.total m' ≤ q.total m := by
  rw [step] at h
  cases hexec : m.executed env with
  | error why t =>
    rw [hexec] at h
    have hfinish := total_le_of_finish (q := q) (m := m.after t) h
    calc q.total m'
        ≤ q.ofResult { ending := .fault why, gas := 0 } +
            (m.waiting.map fun s => q.ofFrame s.frame).sum := hfinish
      _ = (m.waiting.map fun s => q.ofFrame s.frame).sum := by rw [q.fault_eq, Nat.zero_add]
      _ ≤ q.total m := Nat.le_add_left _ _
  | ok signal t =>
    rw [hexec] at h
    have hfollow := total_follow_le (q := q) h
    have hkept := hkept signal t hexec
    simp only [total, after] at hfollow ⊢
    omega

end Holding

/-- No instruction makes gas. -/
theorem kept_gas (env : Env) (m : Machine) : gasHeld.Kept env m :=
  fun signal t hexec => Operation.pays_execute env _ _ signal t hexec

end Machine

end EvmScope
