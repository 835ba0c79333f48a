import EvmScope.Proofs.Reconciliation

/-!
# The gas limit of a call

What a call costs before its code runs is put on top of its gas limit, as far as 64 bits go, and taken away
again before the first step. So the code begins with the whole limit, unless the sum has met the end of the
64-bit numbers, and then with what is left of them. Nothing stands in the way: the origin pays from all the
money there is, and even the largest limit at the largest price is little of that.
-/

namespace EvmScope

set_option autoImplicit false

/-- The gas limit, the price of gas and the value of a call are numbers of 64 bits. -/
structure Context.Fits (ctx : Context) : Prop where
  gasLimit : ctx.gasLimit < 2 ^ 64
  gasPrice : ctx.gasPrice < 2 ^ 64
  value : ctx.value < 2 ^ 64

namespace Transaction

open Vm.Workings

variable {vm : Vm} {w : vm.Workings} {spec : vm.Spec} {bytecode : vm.Bytecode} {code input : Bytes}
  {ctx : Context}

/-- The gas limit of a transaction stays within 64 bits. -/
theorem gasLimit_lt (intrinsic : UInt64) (ctx : Context) : gasLimit intrinsic ctx < 2 ^ 64 := by
  unfold gasLimit largestGas
  omega

/-- The limit of a transaction is at least what it costs before its code runs. -/
theorem intrinsic_le_gasLimit (intrinsic : UInt64) (ctx : Context) :
    intrinsic.toNat ≤ gasLimit intrinsic ctx := by
  have hlt := intrinsic.toNat_lt
  unfold gasLimit largestGas
  omega

/-- Numbers of 64 bits make up a fee that the origin can pay. -/
theorem fee_le (intrinsic : UInt64) (hfits : ctx.Fits) :
    gasLimit intrinsic ctx * ctx.gasPrice + ctx.value ≤ 2 ^ 256 - 1 := by
  have hlimit := gasLimit_lt intrinsic ctx
  have hfee : gasLimit intrinsic ctx * ctx.gasPrice ≤ 2 ^ 64 * 2 ^ 64 :=
    Nat.mul_le_mul (Nat.le_of_lt hlimit) (Nat.le_of_lt hfits.gasPrice)
  have hvalue := hfits.value
  omega

/-- The code gets the gas limit of the call, or what the cost of the call leaves of the 64-bit
numbers. -/
theorem gasLimit_sub (intrinsic : UInt64) (ctx : Context) :
    gasLimit intrinsic ctx - intrinsic.toNat = min ctx.gasLimit (2 ^ 64 - 1 - intrinsic.toNat) := by
  have hlt := intrinsic.toNat_lt
  unfold gasLimit largestGas
  omega

/-- An origin of its own has all the money and no code. -/
theorem account?_origin (vm : Vm) (spec : vm.Spec) (bytecode : vm.Bytecode) (input : Bytes)
    (horigin : ctx.origin ≠ contract) :
    (vm.transaction spec bytecode input ctx).account? ctx.origin =
      some { vm.blank with balance := BitVec.allOnes 256 } := by
  have hne : (ctx.origin == contract) = false := beq_false_of_ne horigin
  simp [TransactionEnv.account?, Vm.transaction, List.lookup_cons, hne]

/-- There is no reason to turn the call down, whatever watches it. -/
theorem transact_ne_rejected (hadmits : w.Admits) {σ : Type} (insp : Inspector vm.Interp σ) (s : σ)
    (hfits : ctx.Fits) (horigin : ctx.origin ≠ contract) (text : String) :
    (vm.transact insp (vm.transaction spec bytecode input ctx) s).1 ≠ .error (.rejected text) := by
  intro hrejected
  have hfee := fee_le (vm.intrinsicGas spec input) hfits
  have hintrinsic := intrinsic_le_gasLimit (vm.intrinsicGas spec input) ctx
  rcases hadmits.rejected insp _ s text hrejected with habove | hlow | hcaller
  · exact Nat.lt_irrefl _ habove
  · exact Nat.not_lt.2 hintrinsic hlow
  · rcases hcaller _ (account?_origin vm spec bytecode input horigin) with hpoor | hcode
    · rw [BitVec.toNat_allOnes] at hpoor
      exact Nat.not_lt.2 hfee hpoor
    · exact hcode rfl

/-- **The code of a call gets its whole gas limit, right up to the end of the 64-bit numbers.** No call of an
origin other than the contract is turned down; the first step has the gas limit before it, less only what
would not fit on top of what the input costs; and no more than the limit is reported as used. -/
theorem gas_limit_granted (hsurrounds : w.Surrounds) (hinfallible : vm.Infallible)
    (hdisplays : w.Displays) (hnests : w.Nests) (hmeters : w.Meters)
    (hadmits : w.Admits) (hplain : Plain code) (hfits : ctx.Fits) (horigin : ctx.origin ≠ contract) :
    (∀ bytecode, vm.newRaw? code = some bytecode → ∀ text,
      (vm.transact (Logger.inspector vm) (vm.transaction spec bytecode input ctx)
        { enabled := ctx.tracing }).1 ≠ .error (.rejected text)) ∧
      ∀ e, vm.execute spec code input ctx = .ran e →
        e.gasUsed ≤ ctx.gasLimit ∧
        (ctx.tracing = true → code ≠ [] → ∃ first, e.logs.head? = some first ∧
          first.gas = min ctx.gasLimit (2 ^ 64 - 1 - (vm.intrinsicGas spec input).toNat) ∧
          (ctx.gasLimit + (vm.intrinsicGas spec input).toNat < 2 ^ 64 →
            first.gas = ctx.gasLimit)) := by
  have hgranted := gasLimit_sub (vm.intrinsicGas spec input) ctx
  refine ⟨fun bytecode _ text =>
    transact_ne_rejected hadmits _ _ hfits horigin text, fun e hran => ?_⟩
  obtain ⟨bytecode, output, gasUsed, ⟨hdone, rfl⟩ | ⟨i₀, path, hdone, rfl⟩⟩ :=
    hsurrounds.exists_success hinfallible hplain hran
  · have hused : gasUsed = (vm.intrinsicGas spec input).toNat :=
      hmeters.codeless hdone.calls hdone.first
    refine ⟨?_, fun _ hne => absurd hdone.first (hnests.coded hdone.calls hne)⟩
    dsimp only
    omega
  · have hstart : (w.frame i₀).gas =
        min ctx.gasLimit (2 ^ 64 - 1 - (vm.intrinsicGas spec input).toNat) :=
      (hadmits.first hdone.start).trans hgranted
    have hne := hdone.trace_ne_nil
    constructor
    · obtain ⟨i, -, hi, -, hended⟩ := hdone.ended_of_getLast? (List.getLast?_eq_some_getLast hne)
      obtain ⟨refund, hused, -⟩ := hmeters.finished hi hended
      replace hused : gasUsed + refund = (vm.intrinsicGas spec input).toNat + _ := hused
      dsimp only
      omega
    · intro htracing _
      obtain ⟨first, rest, htrace⟩ := List.exists_cons_of_ne_nil hne
      have hhead : (w.trace path).head? = some first := by rw [htrace, List.head?_cons]
      have hgas : first.gas = (w.frame i₀).gas :=
        (hdone.shownBy_of_head? hhead).gas.trans (hdisplays.gas hdone.start)
      rw [if_pos htracing]
      refine ⟨first, hhead, hgas.trans hstart, fun hroom => ?_⟩
      omega

/-- The largest gas limit, price and value there are, and an input that costs 21016. -/
theorem largest_limit_granted :
    let ctx : Context :=
      { gasLimit := 2 ^ 64 - 1, gasPrice := 2 ^ 64 - 1, value := 2 ^ 64 - 1 }
    ctx.Fits ∧ interpreter.intrinsicGas .cancun [0x01] = 21016 ∧
      (∀ bytecode, interpreter.newRaw? [0x00] = some bytecode → ∀ text,
        (interpreter.transact (Logger.inspector interpreter)
          (interpreter.transaction .cancun bytecode [0x01] ctx) { enabled := true }).1 ≠
            .error (.rejected text)) ∧
      ∃ e first, interpreter.execute .cancun [0x00] [0x01] ctx = .ran e ∧
        e.logs.head? = some first ∧ first.gas = 2 ^ 64 - 1 - 21016 := by
  intro ctx
  have hfits : ctx.Fits := ⟨by decide, by decide, by decide⟩
  have hshown : (interpreter.execute .cancun [0x00] [0x01] ctx).execution?.map (fun _ => ()) =
      some () := by
    decide +kernel
  obtain ⟨e, hran, -⟩ := Reply.exists_ran hshown
  have hplain : Plain [0x00] := ⟨by decide, by decide⟩
  have horigin : ctx.origin ≠ contract := by decide
  obtain ⟨hadmitted, hall⟩ := gas_limit_granted interpreter_surrounds interpreter_infallible
    interpreter_displays interpreter_nests interpreter_meters interpreter_admits hplain hfits horigin
  obtain ⟨first, hfirst, hgas, -⟩ := (hall e hran).2 rfl (by decide)
  have hleft : min ctx.gasLimit (2 ^ 64 - 1 - (Gas.intrinsic64 .cancun [0x01]).toNat) =
      2 ^ 64 - 1 - 21016 := by decide +kernel
  exact ⟨hfits, rfl, hadmitted, e, first, hran, hfirst, hgas.trans hleft⟩

end Transaction

end EvmScope
