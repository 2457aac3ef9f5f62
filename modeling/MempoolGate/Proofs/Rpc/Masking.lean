import Mathlib.Data.Nat.Find
import MempoolGate.Gateway.Session
import MempoolGate.Proofs.Text.Find

namespace MempoolGate

def keyMarks : List String := ["/v2/", "/v3/"]

/-- Addresses that begin with both have their first mark where `mark` is. -/
structure FirstMark (base mark : String) : Prop where
  mem : mark ∈ keyMarks
  first : ∀ other ∈ keyMarks, ¬other.toList <:+: (base ++ mark).toList.dropLast

/-- What is shown of an address behind its first mark, with the slash at the end of the mark. -/
def exposed (mark rest : String) : Option String :=
  if mark = "/v2/" then none
  else (Text.beforeFirst? "/v2/".toList ("/" ++ rest).toList).map String.ofList

def shownPart (base mark rest : String) : String :=
  match exposed mark rest with
  | none => base ++ mark
  | some more => base ++ "/v3" ++ more ++ "/v2/"

variable {base mark rest rest' url url' : String}

theorem eq_of_mem_keyMarks (h : mark ∈ keyMarks) : mark = "/v2/" ∨ mark = "/v3/" := by
  rwa [keyMarks, List.mem_pair] at h

theorem length_of_mem_keyMarks (h : mark ∈ keyMarks) : mark.toList.length = 4 := by
  rcases eq_of_mem_keyMarks h with rfl | rfl <;> rfl

theorem ne_nil_of_mem_keyMarks (h : mark ∈ keyMarks) : mark.toList ≠ [] := by
  rcases eq_of_mem_keyMarks h with rfl | rfl <;> decide

theorem maskUrl_of_unmarked (h : ∀ mark ∈ keyMarks, ¬mark.toList <:+: url.toList) :
    maskUrl url = url := by
  have hnone : ∀ mark ∈ keyMarks, Text.beforeFirst? mark.toList url.toList = none :=
    fun mark hmark => (Text.beforeFirst?_eq_none_iff _ _).mpr (h mark hmark)
  simp only [maskUrl, hnone "/v2/" (by decide), hnone "/v3/" (by decide), Option.map_none,
    Option.or_none, Option.getD_none]

namespace FirstMark

theorem beforeFirst? (h : FirstMark base mark) (rest : String) :
    Text.beforeFirst? mark.toList (base ++ mark ++ rest).toList = some base.toList := by
  refine (Text.beforeFirst?_eq_some_iff (ne_nil_of_mem_keyMarks h.mem)).mpr ⟨?_, ?_⟩
  · simp only [String.toList_append]
    exact List.prefix_append ..
  · rw [← String.toList_append]
    exact h.first mark h.mem

/-- A `/v2/` that comes after a first `/v3/` begins no sooner than with its last slash. -/
theorem beforeFirst?_later (h : FirstMark base "/v3/") (rest : String) :
    Text.beforeFirst? "/v2/".toList (base ++ "/v3/" ++ rest).toList =
      (Text.beforeFirst? "/v2/".toList ("/" ++ rest).toList).map ((base ++ "/v3").toList ++ ·) := by
  have hcut : (base ++ "/v3/").toList.dropLast = (base ++ "/v3").toList := by
    have hmark : "/v3/".toList = "/v3".toList ++ ['/'] := rfl
    rw [String.toList_append, hmark, ← List.append_assoc, List.dropLast_concat, String.toList_append]
  have hsplit : (base ++ "/v3/" ++ rest).toList = (base ++ "/v3").toList ++ ("/" ++ rest).toList := by
    simp
  have hnone : ¬"/v2/".toList <:+: (base ++ "/v3").toList := hcut ▸ h.first "/v2/" (by decide)
  rw [hsplit]
  refine Text.beforeFirst?_append _ fun s hs hsuffix hprefix => ?_
  by_cases hlong : 4 ≤ s.length
  · refine hnone (List.IsInfix.trans ?_ hsuffix.isInfix)
    exact (List.prefix_of_prefix_length_le hprefix (List.prefix_append ..) hlong).isInfix
  · -- what is left of `/v3` does not begin as a `/v2/` does
    have hend : s <:+ "/v3".toList := by
      refine List.suffix_of_suffix_length_le hsuffix ?_ (Nat.le_of_lt_succ (Nat.lt_of_not_le hlong))
      rw [String.toList_append]
      exact List.suffix_append ..
    have hends : s ∈ "/v3".toList.tails := (List.mem_tails _ _).mpr hend
    have htails : "/v3".toList.tails = [['/', 'v', '3'], ['v', '3'], ['3'], []] := rfl
    rw [htails] at hends
    have hmark : "/v2/".toList = ['/', 'v', '2', '/'] := rfl
    rw [hmark] at hprefix
    simp only [List.mem_cons, List.not_mem_nil, or_false] at hends
    rcases hends with rfl | rfl | rfl | rfl
    · simp [List.cons_prefix_cons] at hprefix
    · simp [List.cons_prefix_cons] at hprefix
    · simp [List.cons_prefix_cons] at hprefix
    · exact hs rfl

theorem maskUrl_eq (h : FirstMark base mark) (rest : String) :
    maskUrl (base ++ mark ++ rest) = shownPart base mark rest ++ hiddenKey := by
  have hbefore := h.beforeFirst? rest
  rcases eq_of_mem_keyMarks h.mem with rfl | rfl
  · simp only [maskUrl, shownPart, exposed, hbefore, if_true, Option.map_some, Option.some_or,
      Option.getD_some, String.ofList_toList]
  · have hne : "/v3/" ≠ "/v2/" := by decide
    simp only [maskUrl, shownPart, exposed, hbefore, h.beforeFirst?_later, if_neg hne]
    cases Text.beforeFirst? "/v2/".toList ("/" ++ rest).toList with
    | none =>
      simp only [Option.map_none, Option.map_some, Option.none_or, Option.getD_some,
        String.ofList_toList]
    | some more =>
      simp only [Option.map_some, Option.some_or, Option.getD_some, String.ofList_append,
        String.ofList_toList, String.append_assoc]

theorem shownPart_inj (h : FirstMark base mark) :
    shownPart base mark rest = shownPart base mark rest' ↔ exposed mark rest = exposed mark rest' := by
  refine ⟨fun hshown => ?_, fun hexposed => by simp only [shownPart, hexposed]⟩
  rcases eq_of_mem_keyMarks h.mem with rfl | rfl
  · rfl
  · have hlonger (more : String) : base ++ "/v3/" ≠ base ++ "/v3" ++ more ++ "/v2/" := by
      intro heq
      have hlength := congrArg String.length heq
      have hmarks : "/v3/".length = 4 ∧ "/v3".length = 3 ∧ "/v2/".length = 4 := ⟨rfl, rfl, rfl⟩
      simp only [String.length_append] at hlength
      omega
    simp only [shownPart] at hshown
    cases hone : exposed "/v3/" rest with
    | none =>
      cases hother : exposed "/v3/" rest' with
      | none => rfl
      | some more =>
        simp only [hone, hother] at hshown
        exact absurd hshown (hlonger more)
    | some more =>
      cases hother : exposed "/v3/" rest' with
      | none =>
        simp only [hone, hother] at hshown
        exact absurd hshown.symm (hlonger more)
      | some more' =>
        simp only [hone, hother, ← String.toList_inj, String.toList_append, List.append_assoc,
          List.append_cancel_left_eq, List.append_cancel_right_eq] at hshown
        rw [String.toList_inj.mp hshown]

theorem exists_shown (h : FirstMark base mark) (rest : String) :
    ∃ kept, shownPart base mark rest ++ hiddenKey = base ++ mark ++ kept ∧
      exposed mark kept = exposed mark rest := by
  rcases eq_of_mem_keyMarks h.mem with rfl | rfl
  · exact ⟨hiddenKey, rfl, rfl⟩
  · have hne : "/v3/" ≠ "/v2/" := by decide
    simp only [shownPart, exposed, if_neg hne]
    cases hlater : Text.beforeFirst? "/v2/".toList ("/" ++ rest).toList with
    | none => exact ⟨hiddenKey, rfl, rfl⟩
    | some more =>
      have hmark : "/v2/".toList ≠ [] := by decide
      obtain ⟨hstarts, hfirst⟩ := (Text.beforeFirst?_eq_some_iff hmark).mp hlater
      obtain ⟨kept, hkept⟩ : ∃ kept, more ++ "/v2/".toList = '/' :: kept := by
        cases more with
        | nil => exact ⟨_, rfl⟩
        | cons c more =>
          have hslash : ("/" ++ rest).toList = '/' :: rest.toList := by simp
          rw [hslash] at hstarts
          obtain ⟨rfl, -⟩ := List.cons_prefix_cons.mp hstarts
          exact ⟨_, rfl⟩
      refine ⟨String.ofList kept ++ hiddenKey, ?_, congrArg (Option.map String.ofList) ?_⟩
      · have hslash : "/v3/".toList = "/v3".toList ++ ['/'] := rfl
        simp only [← String.toList_inj, Option.map_some, String.toList_append, String.toList_ofList,
          hslash, List.append_assoc, List.singleton_append]
        rw [← List.append_assoc more, hkept, List.cons_append]
      · refine (Text.beforeFirst?_eq_some_iff hmark).mpr ⟨?_, hfirst⟩
        simp only [String.toList_append, String.toList_ofList, hkept]
        exact List.prefix_append ('/' :: kept) hiddenKey.toList

theorem maskUrl_maskUrl (h : FirstMark base mark) (rest : String) :
    maskUrl (maskUrl (base ++ mark ++ rest)) = maskUrl (base ++ mark ++ rest) := by
  obtain ⟨kept, hshown, hexposed⟩ := h.exists_shown rest
  rw [h.maskUrl_eq rest, hshown, h.maskUrl_eq kept, h.shownPart_inj.mpr hexposed, hshown]

end FirstMark

theorem exists_sooner {other : String} (hother : other ∈ keyMarks) {before : List Char}
    (hbefore : Text.beforeFirst? mark.toList url.toList = some before) (hmark : mark ∈ keyMarks)
    (h : other.toList <:+: (before ++ mark.toList).dropLast) :
    ∃ sooner, Text.beforeFirst? other.toList url.toList = some sooner ∧
      sooner.length < before.length := by
  have hne := ne_nil_of_mem_keyMarks hother
  obtain ⟨hstarts, -⟩ := (Text.beforeFirst?_eq_some_iff (ne_nil_of_mem_keyMarks hmark)).mp hbefore
  obtain ⟨sooner, hsooner⟩ := Option.isSome_iff_exists.mp ((Text.isSome_beforeFirst? _ _).mpr h)
  obtain ⟨hends, hfirst⟩ := (Text.beforeFirst?_eq_some_iff hne).mp hsooner
  refine ⟨sooner, (Text.beforeFirst?_eq_some_iff hne).mpr ⟨?_, hfirst⟩, ?_⟩
  · exact hends.trans ((List.dropLast_prefix _).trans hstarts)
  · have hle := hends.length_le
    have hlengths := length_of_mem_keyMarks hother
    have hlengths' := length_of_mem_keyMarks hmark
    rw [List.length_dropLast, List.length_append, List.length_append] at hle
    omega

theorem firstMark_of_soonest {before : List Char} (hmark : mark ∈ keyMarks)
    (hbefore : Text.beforeFirst? mark.toList url.toList = some before)
    (h : ∀ other ∈ keyMarks, ∀ later, Text.beforeFirst? other.toList url.toList = some later →
      before.length ≤ later.length) :
    ∃ rest, FirstMark (String.ofList before) mark ∧ url = String.ofList before ++ mark ++ rest := by
  obtain ⟨⟨rest, hrest⟩, -⟩ :=
    (Text.beforeFirst?_eq_some_iff (ne_nil_of_mem_keyMarks hmark)).mp hbefore
  refine ⟨String.ofList rest, ⟨hmark, fun other hother hinfix => ?_⟩, ?_⟩
  · rw [String.toList_append, String.toList_ofList] at hinfix
    obtain ⟨sooner, hsooner, hlt⟩ := exists_sooner hother hbefore hmark hinfix
    exact absurd (h other hother sooner hsooner) (Nat.not_le_of_lt hlt)
  · simp only [← String.toList_inj, String.toList_append, String.toList_ofList]
    exact hrest.symm

theorem firstMark_cases (url : String) :
    (∀ mark ∈ keyMarks, ¬mark.toList <:+: url.toList) ∨
      ∃ base mark rest, FirstMark base mark ∧ url = base ++ mark ++ rest := by
  -- of all marks in the address, the one that begins soonest
  classical
  by_cases hmarked : ∃ n, ∃ mark ∈ keyMarks, ∃ before,
      Text.beforeFirst? mark.toList url.toList = some before ∧ before.length = n
  · obtain ⟨mark, hmark, before, hbefore, hlength⟩ := Nat.find_spec hmarked
    have hsoonest : ∀ other ∈ keyMarks, ∀ later,
        Text.beforeFirst? other.toList url.toList = some later → before.length ≤ later.length := by
      intro other hother later hlater
      rw [hlength]
      exact Nat.find_min' hmarked ⟨other, hother, later, hlater, rfl⟩
    obtain ⟨rest, hfirst, hurl⟩ := firstMark_of_soonest hmark hbefore hsoonest
    exact .inr ⟨_, mark, rest, hfirst, hurl⟩
  · refine .inl fun mark hmark hinfix => hmarked ?_
    obtain ⟨before, hbefore⟩ :=
      Option.isSome_iff_exists.mp ((Text.isSome_beforeFirst? _ _).mpr hinfix)
    exact ⟨before.length, mark, hmark, before, hbefore, rfl⟩

/-- Nothing that shows an address tells the two apart: not the address when it is masked, as in a record
of events, nor what a client of it says of it, nor the message when it cannot be reached. -/
structure ShownAlike (url url' : String) : Prop where
  mask : maskUrl url = maskUrl url'
  client : ∀ client client' : Rpc.Client, client.network.httpUrl = url →
    client'.network.httpUrl = url' → client.maskedUrl = client'.maskedUrl
  unreached : Connector.unreached url = Connector.unreached url'

theorem shownAlike_iff : ShownAlike url url' ↔ maskUrl url = maskUrl url' := by
  refine ⟨ShownAlike.mask, fun h => ⟨h, ?_, ?_⟩⟩
  · rintro client client' rfl rfl
    exact h
  · rw [Connector.unreached, Connector.unreached, h]

/-- An address without a mark is shown as it is. Of two that agree up to and with their first mark the same
is shown exactly if the same is exposed of the rest: nothing behind `/v2/`, nor behind `/v3/` if no `/v2/`
follows, and else what stands between the two. To mask an address again changes nothing. -/
theorem shownAlike_of_marked (url url' : String) :
    ((∀ mark ∈ keyMarks, ¬mark.toList <:+: url.toList) ∧ maskUrl url = url ∨
      ∃ base mark rest, FirstMark base mark ∧ url = base ++ mark ++ rest) ∧
    (∀ base mark rest rest', FirstMark base mark →
      url = base ++ mark ++ rest → url' = base ++ mark ++ rest' →
        maskUrl url = shownPart base mark rest ++ hiddenKey ∧
        (ShownAlike url url' ↔ exposed mark rest = exposed mark rest')) ∧
    maskUrl (maskUrl url) = maskUrl url := by
  refine ⟨?_, ?_, ?_⟩
  · exact (firstMark_cases url).imp_left fun hunmarked => ⟨hunmarked, maskUrl_of_unmarked hunmarked⟩
  · rintro base mark rest rest' h rfl rfl
    refine ⟨h.maskUrl_eq rest, ?_⟩
    rw [shownAlike_iff, h.maskUrl_eq, h.maskUrl_eq, ← h.shownPart_inj, ← String.toList_inj,
      String.toList_append, String.toList_append, List.append_cancel_right_eq, String.toList_inj]
  · rcases firstMark_cases url with hunmarked | ⟨base, mark, rest, h, rfl⟩
    · rw [maskUrl_of_unmarked hunmarked, maskUrl_of_unmarked hunmarked]
    · exact h.maskUrl_maskUrl rest

/-- What stands between a `/v3/` and a `/v2/` is shown, though it is a key. -/
theorem not_shownAlike_of_both : FirstMark "https://h" "/v3/" ∧
    ¬ShownAlike ("https://h" ++ "/v3/" ++ "one/v2/x") ("https://h" ++ "/v3/" ++ "two/v2/x") :=
  ⟨⟨by decide, by decide⟩, fun h => absurd h.mask (by decide)⟩

end MempoolGate
