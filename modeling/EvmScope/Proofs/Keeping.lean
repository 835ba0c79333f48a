import EvmScope.Machine

/-!
# What instructions leave alone

An instruction is put together from a few primitives, so a relation between the states before and
after that every primitive keeps is kept by every instruction, whether it fails or not. The
relations of interest say that a part of the frame stays as it is, or moves only one way. Two parts
are touched by few instructions and so asked for apart: the program counter, and the refund.
-/

namespace EvmScope

set_option autoImplicit false

namespace Exec

/-- The state that a computation ends in, whether or not it fails. -/
def final {α : Type} (x : Exec α) (s : Running) : Running :=
  match x s with
  | .ok _ t => t
  | .error _ t => t

/-- Whatever the computation does, its last state is in a relation to its first one. -/
def Keeps (R : Running → Running → Prop) {α : Type} (x : Exec α) : Prop :=
  ∀ s, R s (final x s)

/-- A relation that no primitive breaks which neither moves the program counter nor touches the
refund. -/
structure Respected (R : Running → Running → Prop) : Prop where
  refl : ∀ s, R s s
  trans : ∀ s t u, R s t → R t u → R s u
  gas : ∀ s n, R s { s with frame := { s.frame with gas := s.frame.gas - n } }
  stack : ∀ s stack, R s { s with frame := { s.frame with stack } }
  memory : ∀ s memory, R s { s with frame := { s.frame with memory } }
  world : ∀ s world, R s { s with world }

/-- A relation that moves of the program counter do not break. -/
def RespectsPc (R : Running → Running → Prop) : Prop :=
  ∀ s pc, R s { s with frame := { s.frame with pc } }

/-- A relation that added refunds do not break. -/
def RespectsRefund (R : Running → Running → Prop) : Prop :=
  ∀ s n, R s { s with frame := { s.frame with refund := s.frame.refund + n } }

section Keeps

variable {R : Running → Running → Prop} {α β : Type}

theorem Keeps.of_ok {x : Exec α} (h : Keeps R x) {s t : Running} {a : α} (hx : x s = .ok a t) :
    R s t := by
  have hs := h s
  rwa [final, hx] at hs

theorem bind_apply (x : Exec α) (f : α → Exec β) (s : Running) :
    (x >>= f) s =
      match x s with
      | .ok a t => f a t
      | .error e t => .error e t := by
  simp only [bind, EStateM.bind]
  cases x s <;> rfl

theorem get_apply (s : Running) : (get : Exec Running) s = .ok s s := rfl

variable (hR : Respected R)

include hR

theorem Respected.pure (a : α) : Keeps R (pure a : Exec α) :=
  hR.refl

theorem Respected.fault (why : Fault) : Keeps R (fault why : Exec α) :=
  hR.refl

theorem Respected.bind {x : Exec α} {f : α → Exec β} (hx : Keeps R x) (hf : ∀ a, Keeps R (f a)) :
    Keeps R (x >>= f) := by
  intro s
  have hs := hx s
  rw [final, bind_apply]
  rw [final] at hs
  cases hxs : x s with
  | ok a t =>
    rw [hxs] at hs
    exact hR.trans s t _ hs (hf a t)
  | error e t =>
    rw [hxs] at hs
    exact hs

omit hR in
/-- Looking at the state changes nothing. -/
theorem keeps_get {f : Running → Exec α} (hf : ∀ s, Keeps R (f s)) : Keeps R (get >>= f) :=
  fun s => hf s s

omit hR in
theorem keeps_discard {x : Exec α} (hx : Keeps R x) : Keeps R (discard x) := by
  intro s
  have hs := hx s
  simp only [final, discard, Functor.discard, Functor.mapConst, Function.comp_apply,
    EStateM.map] at hs ⊢
  cases hxs : x s <;> rwa [hxs] at hs

omit hR in
theorem keeps_ite {c : Prop} [Decidable c] {x y : Exec α} (hx : c → Keeps R x)
    (hy : ¬c → Keeps R y) : Keeps R (if c then x else y) := by
  split
  · exact hx ‹c›
  · exact hy ‹¬c›

omit hR in
theorem keeps_modifyFrame {f : Frame → Frame}
    (h : ∀ s : Running, R s { s with frame := f s.frame }) :
    Keeps R (modifyFrame f) :=
  h

theorem Respected.modifyWorld (f : World → World) : Keeps R (modifyWorld f) :=
  fun s => hR.world s (f s.world)

theorem Respected.charge (n : Nat) : Keeps R (charge n) :=
  keeps_get fun _ => keeps_ite (fun _ => keeps_modifyFrame fun s => hR.gas s n) fun _ => hR.fault _

theorem Respected.demand (condition : Bool) (why : Fault) : Keeps R (demand condition why) :=
  keeps_ite (fun _ => hR.pure ()) fun _ => hR.fault why

theorem Respected.requireFork (env : Env) (since : Hardfork) : Keeps R (requireFork env since) :=
  hR.demand _ _

theorem Respected.requireMutable : Keeps R requireMutable :=
  keeps_get fun _ => hR.demand _ _

theorem Respected.pop : Keeps R pop := by
  refine keeps_get fun s => ?_
  split
  · exact hR.fault _
  · exact hR.bind (keeps_modifyFrame fun s => hR.stack s _) fun _ => hR.pure _

theorem Respected.popMany (n : Nat) : Keeps R (popMany n) := by
  induction n with
  | zero => exact hR.pure []
  | succ n ih => exact hR.bind hR.pop fun _ => hR.bind ih fun _ => hR.pure _

theorem Respected.push (w : Word) : Keeps R (push w) :=
  keeps_get fun _ => hR.bind (hR.demand _ _) fun _ => keeps_modifyFrame fun s => hR.stack s _

theorem Respected.replaceTop (w : Word) : Keeps R (replaceTop w) :=
  keeps_modifyFrame fun s => hR.stack s _

theorem Respected.top : Keeps R top := by
  refine keeps_get fun s => ?_
  split
  · exact hR.fault _
  · exact hR.pure _

theorem Respected.asSize (w : Word) (why : Fault) : Keeps R (asSize w why) :=
  keeps_ite (fun _ => hR.pure _) fun _ => hR.fault why

theorem Respected.grow (offset length : Nat) : Keeps R (grow offset length) := by
  refine keeps_get fun s => keeps_ite (fun _ => hR.pure ()) fun _ => ?_
  refine keeps_ite (fun _ => hR.fault _) fun _ => keeps_ite (fun _ => hR.fault _) fun _ => ?_
  exact keeps_modifyFrame fun s => hR.trans s _ _ (hR.gas s _) (hR.memory _ _)

theorem Respected.range (offset : Word) (length : Nat) : Keeps R (range offset length) :=
  keeps_ite (fun _ => hR.pure 0) fun _ =>
    hR.bind (hR.asSize _ _) fun _ => hR.bind (hR.grow _ _) fun _ => hR.pure _

theorem Respected.read (offset length : Nat) : Keeps R (read offset length) :=
  keeps_get fun _ => hR.pure _

theorem Respected.write (offset : Nat) (data : Array UInt8) : Keeps R (write offset data) :=
  keeps_modifyFrame fun s => hR.memory s _

end Keeps

end Exec

namespace Operation

open Exec

/-- Whether an instruction may go on elsewhere than behind its opcode. -/
def movesPc : Operation → Bool
  | push _ | jump | jumpIf => true
  | _ => false

/-- Whether an instruction may add to the refund. -/
def addsRefund : Operation → Bool
  | storageStore | selfDestruct => true
  | _ => false

variable {R : Running → Running → Prop} (hR : Respected R) (env : Env)

include hR

theorem keeps_callValue (kind : CallKind) : Keeps R (callValue kind) := by
  cases kind with
  | call | callCode => exact hR.pop
  | delegateCall | staticCall => exact hR.pure 0

theorem keeps_requireMovable (kind : CallKind) (value : Word) :
    Keeps R (requireMovable kind value) :=
  keeps_ite (fun _ => keeps_get fun _ => hR.demand _ _) fun _ => hR.pure ()

theorem keeps_callOperands (kind : CallKind) : Keeps R (callOperands kind) :=
  hR.bind hR.pop fun _ => hR.bind hR.pop fun _ =>
  hR.bind (keeps_callValue hR kind) fun _ => hR.bind (keeps_requireMovable hR kind _) fun _ =>
  hR.bind hR.pop fun _ => hR.bind hR.pop fun _ => hR.bind hR.pop fun _ => hR.bind hR.pop fun _ =>
  hR.bind (hR.asSize _ _) fun _ => hR.bind (hR.range _ _) fun _ => hR.bind (hR.read _ _) fun _ =>
  hR.bind (hR.asSize _ _) fun _ => hR.bind (hR.range _ _) fun _ => hR.pure _

theorem keeps_chargeCall (kind : CallKind) (address : Address) (value : Word) (requested : Nat) :
    Keeps R (chargeCall env kind address value requested) :=
  keeps_get fun _ => hR.bind (hR.modifyWorld _) fun _ => hR.bind (hR.charge _) fun _ =>
  keeps_get fun _ => hR.bind (hR.charge _) fun _ => hR.pure _

theorem keeps_executeCall (kind : CallKind) : Keeps R (executeCall env kind) :=
  hR.bind (hR.requireFork env _) fun _ => hR.bind (keeps_callOperands hR kind) fun _ =>
  hR.bind (keeps_chargeCall hR env kind _ _ _) fun _ => keeps_get fun _ => hR.pure _

theorem keeps_chargeInitCode (length : Nat) : Keeps R (chargeInitCode env length) :=
  keeps_ite (fun _ => hR.bind (hR.demand _ _) fun _ => hR.charge _) fun _ => hR.pure ()

theorem keeps_popSalt (salted : Bool) : Keeps R (popSalt salted) :=
  keeps_ite (fun _ => hR.bind hR.pop fun _ => hR.pure _) fun _ => hR.pure none

theorem keeps_executeCreate (salted : Bool) : Keeps R (executeCreate env salted) :=
  hR.bind hR.requireMutable fun _ => hR.bind (hR.requireFork env _) fun _ =>
  hR.bind hR.pop fun _ => hR.bind hR.pop fun _ => hR.bind hR.pop fun _ =>
  hR.bind (hR.asSize _ _) fun _ => hR.bind (keeps_chargeInitCode hR env _) fun _ =>
  hR.bind (hR.range _ _) fun _ => hR.bind (hR.read _ _) fun _ =>
  hR.bind (keeps_popSalt hR salted) fun _ => hR.bind (hR.charge _) fun _ =>
  keeps_get fun _ => hR.bind (hR.charge _) fun _ => keeps_get fun _ => hR.pure _

theorem keeps_copyToMemory (source : Array UInt8) (target : Word) (start length : Nat) :
    Keeps R (copyToMemory source target start length) :=
  keeps_ite (fun _ => hR.bind (hR.range _ _) fun _ => hR.write _ _) fun _ => hR.pure ()

theorem keeps_executeCopy (source : CopySource) : Keeps R (executeCopy source) :=
  hR.bind hR.pop fun _ => hR.bind hR.pop fun _ => hR.bind hR.pop fun _ =>
  hR.bind (hR.asSize _ _) fun _ => hR.bind (hR.charge _) fun _ =>
  keeps_get fun _ => keeps_copyToMemory hR _ _ _ _

theorem keeps_executeExtCodeCopy : Keeps R (executeExtCodeCopy env) :=
  hR.bind hR.pop fun _ => hR.bind hR.pop fun _ => hR.bind hR.pop fun _ => hR.bind hR.pop fun _ =>
  keeps_get fun _ => hR.bind (hR.modifyWorld _) fun _ => hR.bind (hR.asSize _ _) fun _ =>
  hR.bind (hR.charge _) fun _ => keeps_copyToMemory hR _ _ _ _

theorem keeps_executeReturnDataCopy : Keeps R (executeReturnDataCopy env) :=
  hR.bind (hR.requireFork env _) fun _ =>
  hR.bind hR.pop fun _ => hR.bind hR.pop fun _ => hR.bind hR.pop fun _ =>
  hR.bind (hR.asSize _ _) fun _ => hR.bind (hR.charge _) fun _ =>
  keeps_get fun _ => hR.bind (hR.demand _ _) fun _ => keeps_copyToMemory hR _ _ _ _

theorem keeps_executeMemoryCopy : Keeps R (executeMemoryCopy env) :=
  hR.bind (hR.requireFork env _) fun _ =>
  hR.bind hR.pop fun _ => hR.bind hR.pop fun _ => hR.bind hR.pop fun _ =>
  hR.bind (hR.asSize _ _) fun _ => hR.bind (hR.charge _) fun _ =>
  keeps_ite
    (fun _ => hR.bind (hR.asSize _ _) fun _ => hR.bind (hR.asSize _ _) fun _ =>
      hR.bind (hR.grow _ _) fun _ => hR.bind (hR.read _ _) fun _ => hR.write _ _)
    fun _ => hR.pure ()

theorem keeps_executeAccountQuery (price : Hardfork → Bool → Nat) (f : Account → Word) :
    Keeps R (executeAccountQuery env price f) :=
  hR.bind hR.pop fun _ => keeps_get fun _ => hR.bind (hR.modifyWorld _) fun _ =>
  hR.bind (hR.charge _) fun _ => hR.push _

theorem keeps_executeStorageLoad : Keeps R (executeStorageLoad env) :=
  hR.bind hR.top fun _ => keeps_get fun _ => hR.bind (hR.modifyWorld _) fun _ =>
  hR.bind (hR.charge _) fun _ => hR.replaceTop _

theorem keeps_requireStipend : Keeps R (requireStipend env) :=
  keeps_ite (fun _ => keeps_get fun _ => hR.demand _ _) fun _ => hR.pure ()

theorem keeps_executeStorageStore (hrefund : RespectsRefund R) :
    Keeps R (executeStorageStore env) :=
  hR.bind hR.requireMutable fun _ => hR.bind hR.pop fun _ => hR.bind hR.pop fun _ =>
  keeps_get fun _ => hR.bind (hR.modifyWorld _) fun _ =>
  hR.bind (keeps_requireStipend hR env) fun _ => hR.bind (hR.charge _) fun _ =>
  keeps_modifyFrame fun s => hrefund s _

theorem keeps_executeTransientStore : Keeps R (executeTransientStore env) :=
  hR.bind (hR.requireFork env _) fun _ => hR.bind hR.requireMutable fun _ =>
  hR.bind (hR.charge _) fun _ => hR.bind hR.pop fun _ => hR.bind hR.pop fun _ =>
  keeps_get fun _ => hR.modifyWorld _

theorem keeps_jumpTo (hpc : RespectsPc R) (target : Word) : Keeps R (jumpTo target) :=
  hR.bind (hR.asSize _ _) fun _ => keeps_get fun _ => hR.bind (hR.demand _ _) fun _ =>
  keeps_modifyFrame fun s => hpc s _

theorem keeps_executePush (hpc : RespectsPc R) (length : Nat) : Keeps R (executePush length) :=
  hR.bind (hR.charge _) fun _ => keeps_get fun _ => hR.bind (hR.push _) fun _ =>
  keeps_modifyFrame fun s => hpc s _

theorem keeps_executeDup (n : Nat) : Keeps R (executeDup n) := by
  refine hR.bind (hR.charge _) fun _ => keeps_get fun s => ?_
  split
  · exact hR.fault _
  · exact hR.push _

theorem keeps_executeSwap (n : Nat) : Keeps R (executeSwap n) := by
  refine hR.bind (hR.charge _) fun _ => keeps_get fun s => ?_
  dsimp only
  split
  · exact keeps_modifyFrame fun s => hR.stack s _
  · exact hR.fault _

theorem keeps_executeLog (topics : Nat) : Keeps R (executeLog topics) :=
  hR.bind hR.requireMutable fun _ => hR.bind hR.pop fun _ => hR.bind hR.pop fun _ =>
  hR.bind (hR.asSize _ _) fun _ => hR.bind (hR.charge _) fun _ =>
  hR.bind (keeps_discard (hR.range _ _)) fun _ => keeps_discard (hR.popMany _)

theorem keeps_executeSelfDestruct (hrefund : RespectsRefund R) :
    Keeps R (executeSelfDestruct env) :=
  hR.bind hR.requireMutable fun _ => hR.bind hR.pop fun _ => keeps_get fun _ =>
  hR.bind (hR.modifyWorld _) fun _ =>
  hR.bind (keeps_modifyFrame fun s => hrefund s _) fun _ => hR.charge _

theorem keeps_executeOutput : Keeps R executeOutput :=
  hR.bind hR.pop fun _ => hR.bind hR.pop fun _ => hR.bind (hR.asSize _ _) fun _ =>
  hR.bind (hR.range _ _) fun _ => hR.read _ _

/-- **Every instruction** keeps a relation that the primitives keep, as long as the relation allows
for the moves and refunds that the instruction may make. -/
theorem keeps_execute (op : Operation) (hpc : op.movesPc = true → RespectsPc R)
    (hrefund : op.addsRefund = true → RespectsRefund R) : Keeps R (op.execute env) := by
  cases op with
  | unary cost f =>
    exact hR.bind (hR.charge _) fun _ => hR.bind hR.pop fun _ => hR.bind (hR.push _) fun _ =>
      hR.pure _
  | binary cost since f =>
    exact hR.bind (hR.requireFork env _) fun _ => hR.bind (hR.charge _) fun _ =>
      hR.bind hR.pop fun _ => hR.bind hR.pop fun _ => hR.bind (hR.push _) fun _ => hR.pure _
  | ternary cost f =>
    exact hR.bind (hR.charge _) fun _ => hR.bind hR.pop fun _ => hR.bind hR.pop fun _ =>
      hR.bind hR.pop fun _ => hR.bind (hR.push _) fun _ => hR.pure _
  | exp =>
    exact hR.bind hR.pop fun _ => hR.bind hR.pop fun _ => hR.bind (hR.charge _) fun _ =>
      hR.bind (hR.push _) fun _ => hR.pure _
  | keccak =>
    exact hR.bind hR.pop fun _ => hR.bind hR.pop fun _ => hR.bind (hR.asSize _ _) fun _ =>
      hR.bind (hR.charge _) fun _ => hR.bind (hR.range _ _) fun _ =>
      hR.bind (hR.read _ _) fun _ => hR.bind (hR.push _) fun _ => hR.pure _
  | observe cost since f =>
    exact hR.bind (hR.requireFork env _) fun _ => hR.bind (hR.charge _) fun _ =>
      keeps_get fun _ => hR.bind (hR.push _) fun _ => hR.pure _
  | query cost since f =>
    exact hR.bind (hR.requireFork env _) fun _ => hR.bind (hR.charge _) fun _ =>
      hR.bind hR.pop fun _ => keeps_get fun _ => hR.bind (hR.push _) fun _ => hR.pure _
  | balance | extCodeSize =>
    exact hR.bind (keeps_executeAccountQuery hR env _ _) fun _ => hR.pure _
  | extCodeHash =>
    exact hR.bind (hR.requireFork env _) fun _ =>
      hR.bind (keeps_executeAccountQuery hR env _ _) fun _ => hR.pure _
  | extCodeCopy => exact hR.bind (keeps_executeExtCodeCopy hR env) fun _ => hR.pure _
  | copy source => exact hR.bind (keeps_executeCopy hR source) fun _ => hR.pure _
  | returnDataCopy => exact hR.bind (keeps_executeReturnDataCopy hR env) fun _ => hR.pure _
  | memoryCopy => exact hR.bind (keeps_executeMemoryCopy hR env) fun _ => hR.pure _
  | pop =>
    exact hR.bind (hR.charge _) fun _ => hR.bind (keeps_discard hR.pop) fun _ => hR.pure _
  | memoryLoad =>
    exact hR.bind (hR.charge _) fun _ => hR.bind hR.pop fun _ => hR.bind (hR.asSize _ _) fun _ =>
      hR.bind (hR.grow _ _) fun _ => hR.bind (hR.read _ _) fun _ => hR.bind (hR.push _) fun _ =>
      hR.pure _
  | memoryStore | memoryStoreByte =>
    exact hR.bind (hR.charge _) fun _ => hR.bind hR.pop fun _ => hR.bind hR.pop fun _ =>
      hR.bind (hR.asSize _ _) fun _ => hR.bind (hR.grow _ _) fun _ =>
      hR.bind (hR.write _ _) fun _ => hR.pure _
  | storageLoad => exact hR.bind (keeps_executeStorageLoad hR env) fun _ => hR.pure _
  | storageStore =>
    exact hR.bind (keeps_executeStorageStore hR env (hrefund rfl)) fun _ => hR.pure _
  | transientStore => exact hR.bind (keeps_executeTransientStore hR env) fun _ => hR.pure _
  | jump =>
    exact hR.bind (hR.bind (hR.charge _) fun _ => hR.bind hR.pop fun _ =>
      keeps_jumpTo hR (hpc rfl) _) fun _ => hR.pure _
  | jumpIf =>
    exact hR.bind (hR.bind (hR.charge _) fun _ => hR.bind hR.pop fun _ => hR.bind hR.pop fun _ =>
      keeps_ite (fun _ => keeps_jumpTo hR (hpc rfl) _) fun _ => hR.pure ()) fun _ => hR.pure _
  | jumpDestination => exact hR.bind (hR.charge _) fun _ => hR.pure _
  | push length => exact hR.bind (keeps_executePush hR (hpc rfl) length) fun _ => hR.pure _
  | dup n => exact hR.bind (keeps_executeDup hR n) fun _ => hR.pure _
  | swap n => exact hR.bind (keeps_executeSwap hR n) fun _ => hR.pure _
  | log topics => exact hR.bind (keeps_executeLog hR topics) fun _ => hR.pure _
  | create salted => exact keeps_executeCreate hR env salted
  | call kind => exact keeps_executeCall hR env kind
  | stop => exact hR.pure _
  | ret => exact hR.bind (keeps_executeOutput hR) fun _ => hR.pure _
  | revert =>
    exact hR.bind (hR.requireFork env _) fun _ => hR.bind (keeps_executeOutput hR) fun _ =>
      hR.pure _
  | selfDestruct =>
    exact hR.bind (keeps_executeSelfDestruct hR env (hrefund rfl)) fun _ => hR.pure _
  | fail why => exact hR.fault why

end Operation

end EvmScope
