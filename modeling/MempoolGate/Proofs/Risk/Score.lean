import MempoolGate.Proofs.List
import MempoolGate.Risk.Classifier
import Mathlib.Data.List.Infix

namespace MempoolGate

def RiskLevel.Covers : RiskLevel → Nat → Prop
  | low, score => score < 30
  | medium, score => 30 ≤ score ∧ score ≤ 49
  | high, score => 50 ≤ score ∧ score ≤ 69
  | critical, score => 70 ≤ score

theorem RiskLevel.ofScore_eq_iff (score : Nat) (level : RiskLevel) :
    ofScore score = level ↔ level.Covers score := by
  unfold ofScore
  cases level <;> split_ifs <;> simp only [Covers, true_iff, false_iff] <;> omega

theorem RiskLevel.rank_ofScore_mono {score score' : Nat} (h : score ≤ score') :
    (ofScore score).rank ≤ (ofScore score').rank := by
  unfold ofScore
  split_ifs <;> simp only [rank] <;> omega

namespace Risk

def points (hit : Option Hit) : Nat :=
  hit.elim 0 (·.points)

def total (tx : PendingTx) : Nat :=
  ((hits tx).map (·.points)).sum

section Sums

theorem foldl_points (found : List Hit) (start : Nat) :
    found.foldl (fun sum hit => sum + hit.points) start = start + (found.map (·.points)).sum := by
  induction found generalizing start with
  | nil => rfl
  | cons hit found ih =>
    rw [List.foldl_cons, ih, List.map_cons, List.sum_cons, Nat.add_assoc]

theorem foldl_words (found : List Hit) (start : Nat) :
    found.foldl (fun sum hit => sum + UInt16.ofNat hit.points) (UInt16.ofNat start) =
      UInt16.ofNat (start + (found.map (·.points)).sum) := by
  induction found generalizing start with
  | nil => rfl
  | cons hit found ih =>
    rw [List.foldl_cons, ← UInt16.ofNat_add, ih, List.map_cons, List.sum_cons, Nat.add_assoc]

theorem sum_points (rules : List (Option Hit)) :
    ((rules.filterMap id).map (·.points)).sum = (rules.map points).sum := by
  induction rules with
  | nil => rfl
  | cons rule rules ih =>
    rw [List.map_cons, List.sum_cons, ← ih]
    cases rule with
    | none => exact (Nat.zero_add _).symm
    | some hit => rfl

theorem total_eq (tx : PendingTx) :
    total tx = points (valueRule tx.value) + points (callRule tx.input) +
      points (payloadRule tx.input) + points (gasRule tx.gasLimit) +
      points (creationRule tx.recipient) := by
  unfold total hits
  rw [sum_points]
  simp only [List.map_cons, List.map_nil, List.sum_cons, List.sum_nil]
  omega

theorem score_eq (tx : PendingTx) : (classify tx).score = min 100 (total tx) := by
  have hsum := foldl_points (hits tx) 0
  rw [Nat.zero_add] at hsum
  exact (congrArg (min · maxScore) hsum).trans (Nat.min_comm ..)

end Sums

section Rules

theorem points_valueRule_le (value : Wei) : points (valueRule value) ≤ 40 := by
  unfold valueRule
  split_ifs <;> simp [points]

theorem points_valueRule_mono {value value' : Wei} (h : value.toNat ≤ value'.toNat) :
    points (valueRule value) ≤ points (valueRule value') := by
  unfold valueRule
  split_ifs <;> simp only [points, Option.elim_some, Option.elim_none] <;> omega

theorem length_of_mem_selectors : ∀ entry ∈ selectors, entry.1.length = 4 := by decide

/-- A payload that calls a function of the table calls it however it goes on. -/
theorem riskyCall?_append {input : List UInt8} {name : String} (hcall : riskyCall? input = some name)
    (more : List UInt8) : riskyCall? (input ++ more) = some name := by
  obtain ⟨before, after, hselectors, -⟩ := List.lookup_eq_some_iff.mp hcall
  have hmem : (input.take 4, name) ∈ selectors := by simp [hselectors]
  have hlength := length_of_mem_selectors _ hmem
  rw [List.length_take] at hlength
  have htake : (input ++ more).take 4 = input.take 4 := List.take_append_of_le_length (by omega)
  unfold riskyCall?
  rw [htake]
  exact hcall

theorem points_callRule_le (input : List UInt8) : points (callRule input) ≤ 25 := by
  unfold callRule
  cases riskyCall? input <;> simp [points]

theorem points_callRule_mono {input input' : List UInt8} (h : input <+: input') :
    points (callRule input) ≤ points (callRule input') := by
  obtain ⟨more, rfl⟩ := h
  unfold callRule
  cases hcall : riskyCall? input with
  | none => exact Nat.zero_le _
  | some name => rw [riskyCall?_append hcall]

theorem points_payloadRule_le (input : List UInt8) : points (payloadRule input) ≤ 10 := by
  unfold payloadRule
  split_ifs <;> simp [points]

theorem points_payloadRule_mono {input input' : List UInt8} (h : input <+: input') :
    points (payloadRule input) ≤ points (payloadRule input') := by
  have hlength := h.length_le
  unfold payloadRule
  split_ifs <;> simp only [points, Option.elim_some, Option.elim_none] <;> omega

theorem points_gasRule_le (gasLimit : UInt64) : points (gasRule gasLimit) ≤ 15 := by
  unfold gasRule
  split_ifs <;> simp [points]

theorem points_gasRule_mono {gasLimit gasLimit' : UInt64} (h : gasLimit ≤ gasLimit') :
    points (gasRule gasLimit) ≤ points (gasRule gasLimit') := by
  have hle : gasLimit.toNat ≤ gasLimit'.toNat := UInt64.le_iff_toNat_le.mp h
  unfold gasRule
  split_ifs <;> simp only [points, Option.elim_some, Option.elim_none] <;> omega

theorem points_creationRule_le (recipient : Option Address) :
    points (creationRule recipient) ≤ 30 := by
  unfold creationRule
  split_ifs <;> simp [points]

theorem points_creationRule_mono {recipient recipient' : Option Address}
    (h : recipient = none → recipient' = none) :
    points (creationRule recipient) ≤ points (creationRule recipient') := by
  cases recipient with
  | none => rw [h rfl]
  | some address => exact Nat.zero_le _

theorem total_le (tx : PendingTx) : total tx ≤ 120 := by
  have hvalue := points_valueRule_le tx.value
  have hcall := points_callRule_le tx.input
  have hpayload := points_payloadRule_le tx.input
  have hgas := points_gasRule_le tx.gasLimit
  have hcreation := points_creationRule_le tx.recipient
  rw [total_eq]
  omega

/-- The first transaction is at most as large as the second in all that the rules look at. -/
structure AtMost (tx tx' : PendingTx) : Prop where
  value : tx.value.toNat ≤ tx'.value.toNat
  gasLimit : tx.gasLimit ≤ tx'.gasLimit
  input : tx.input <+: tx'.input
  creation : tx.recipient = none → tx'.recipient = none

theorem AtMost.total_le {tx tx' : PendingTx} (h : AtMost tx tx') : total tx ≤ total tx' := by
  have hvalue := points_valueRule_mono h.value
  have hcall := points_callRule_mono h.input
  have hpayload := points_payloadRule_mono h.input
  have hgas := points_gasRule_mono h.gasLimit
  have hcreation := points_creationRule_mono h.creation
  rw [total_eq, total_eq]
  omega

end Rules

def wordTotal (tx : PendingTx) : UInt16 :=
  (hits tx).foldl (fun sum hit => sum + UInt16.ofNat hit.points) 0

theorem toNat_wordTotal (tx : PendingTx) : (wordTotal tx).toNat = total tx := by
  have hwords := foldl_words (hits tx) 0
  rw [Nat.zero_add] at hwords
  have hsmall : total tx < UInt16.size := (total_le tx).trans_lt (by decide)
  exact (congrArg UInt16.toNat hwords).trans (UInt16.toNat_ofNat_of_lt' hsmall)

theorem toNat_cappedWord (tx : PendingTx) :
    (min (wordTotal tx) 100).toUInt8.toNat = min 100 (total tx) := by
  have htotal := toNat_wordTotal tx
  rw [UInt16.toNat_toUInt8]
  by_cases h : wordTotal tx ≤ 100
  · have hmin : min (wordTotal tx) 100 = wordTotal tx := if_pos h
    have hle : (wordTotal tx).toNat ≤ 100 := UInt16.le_iff_toNat_le.mp h
    rw [hmin]
    omega
  · have hmin : min (wordTotal tx) 100 = 100 := if_neg h
    have hlt : ¬(wordTotal tx).toNat ≤ 100 := fun hle => h (UInt16.le_iff_toNat_le.mpr hle)
    rw [hmin, ← htotal, Nat.min_eq_left (by omega)]
    rfl

/-- The score is the sum of the hits, at most a hundred, and neither the sum in words of sixteen bits nor
the score in a byte loses anything; the level is the one that stands for the score; the reasons are those
of the hits, in the order of the rules. The score and the level grow with the amount, the gas limit and
the payload, and with the creation of a contract. -/
theorem classify_mono :
    (∀ tx, let verdict := classify tx
      hits tx = (valueRule tx.value).toList ++ (callRule tx.input).toList ++
        (payloadRule tx.input).toList ++ (gasRule tx.gasLimit).toList ++
        (creationRule tx.recipient).toList ∧
      verdict.score = min 100 ((hits tx).map (·.points)).sum ∧
      (wordTotal tx).toNat = ((hits tx).map (·.points)).sum ∧
      (min (wordTotal tx) 100).toUInt8.toNat = verdict.score ∧
      (∀ level : RiskLevel, verdict.level = level ↔ level.Covers verdict.score) ∧
      verdict.reasons = (hits tx).filterMap (·.reason)) ∧
    (∀ n : UInt64, nativeUnits n.toNat < Literal.limit) ∧
    ∀ tx tx' : PendingTx, tx.value.toNat ≤ tx'.value.toNat → tx.gasLimit ≤ tx'.gasLimit →
      tx.input <+: tx'.input → (tx.recipient = none → tx'.recipient = none) →
      (classify tx).score ≤ (classify tx').score ∧
        (classify tx).level.rank ≤ (classify tx').level.rank := by
  refine ⟨fun tx => ?_, fun n => ?_, fun tx tx' hvalue hgas hinput hcreation => ?_⟩
  · have hscore := score_eq tx
    refine ⟨?_, hscore, toNat_wordTotal tx, (toNat_cappedWord tx).trans hscore.symm,
      RiskLevel.ofScore_eq_iff _, rfl⟩
    simp only [hits, filterMap_cons_toList, id, List.filterMap_nil, List.append_assoc,
      List.append_nil]
  · -- the bounds of the rules are whole units, and none of these comes to 256 bits
    have hword := n.toNat_lt_size
    have hunit : UInt64.size * weiPerNative < Literal.limit := by decide
    exact (Nat.mul_le_mul_right weiPerNative hword.le).trans_lt hunit
  · have htotal : total tx ≤ total tx' := AtMost.total_le ⟨hvalue, hgas, hinput, hcreation⟩
    have hscore : (classify tx).score ≤ (classify tx').score := by
      rw [score_eq, score_eq]
      omega
    exact ⟨hscore, RiskLevel.rank_ofScore_mono hscore⟩

/-- An approval with its selector cut short, and with the whole payload in a larger creation. -/
def cutApproval : PendingTx :=
  { hash := .filled 32 1, sender := .filled 20 2, recipient := some (.filled 20 3)
    value := ⟨nativeUnits 10, by decide⟩, input := [0x09, 0x5e, 0xa7], gasLimit := 200001 }

def wholeApproval : PendingTx :=
  { cutApproval with
    recipient := none
    value := ⟨nativeUnits 10 + 1, by decide⟩
    input := [0x09, 0x5e, 0xa7, 0xb3, 0x00] }

theorem classify_mono_approval :
    cutApproval.value.toNat ≤ wholeApproval.value.toNat ∧
      cutApproval.gasLimit ≤ wholeApproval.gasLimit ∧ cutApproval.input <+: wholeApproval.input ∧
      (cutApproval.recipient = none → wholeApproval.recipient = none) ∧
      (classify cutApproval).score = 15 ∧ (classify wholeApproval).score = 80 ∧
      (classify cutApproval).score ≤ (classify wholeApproval).score ∧
      (classify cutApproval).level.rank ≤ (classify wholeApproval).level.rank := by
  have hvalue : cutApproval.value.toNat ≤ wholeApproval.value.toNat := by decide
  have hgas : cutApproval.gasLimit ≤ wholeApproval.gasLimit := by decide
  have hinput : cutApproval.input <+: wholeApproval.input := by decide
  have hcreation : cutApproval.recipient = none → wholeApproval.recipient = none := fun _ => rfl
  exact ⟨hvalue, hgas, hinput, hcreation, by decide, by decide,
    classify_mono.2.2 cutApproval wholeApproval hvalue hgas hinput hcreation⟩

end Risk

end MempoolGate
