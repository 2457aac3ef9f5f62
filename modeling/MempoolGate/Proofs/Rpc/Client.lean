import MempoolGate.Proofs.Registry
import MempoolGate.Proofs.Table
import MempoolGate.Rpc.Clients

namespace MempoolGate.Rpc

variable {α : Type} {node : Node} {decode : String → Except GatewayError α}

theorem outcome_of_getLast? {first last : Request} {budget attempt : Nat}
    (h : (tryCall node decode first budget attempt).attempts.getLast? = some last) :
    (tryCall node decode first budget attempt).outcome = (node last).outcome decode := by
  induction budget generalizing attempt with
  | zero => cases h
  | succ budget ih =>
    rw [tryCall] at h ⊢
    split at h
    · next a ha =>
      have hlast : { first with attempt := attempt } = last := Option.some.inj h
      rw [← hlast, ha]
    · next e he =>
      split at h
      · next htransient =>
        rw [if_pos htransient]
        dsimp only at h ⊢
        cases hrest : (tryCall node decode first budget (attempt + 1)).attempts with
        | nil =>
          -- more attempts were left, so that one of them was made
          obtain ⟨budget, rfl⟩ := Nat.exists_eq_succ_of_ne_zero htransient.2
          rw [tryCall] at hrest
          split at hrest
          · cases hrest
          · split at hrest <;> cases hrest
        | cons request requests =>
          rw [hrest, List.getLast?_cons_cons, ← hrest] at h
          exact ih h
      · next hfinal =>
        have hlast : { first with attempt := attempt } = last := Option.some.inj h
        rw [if_neg hfinal, ← hlast, he]

theorem Exchange.outcome_answered {status : Nat} (hlow : 200 ≤ status) (hhigh : status ≤ 299)
    (body : String) : (answered status (some body)).outcome decode = decode body := by
  rw [Exchange.outcome, if_neg (by omega), if_pos ⟨hlow, hhigh⟩]

theorem Exchange.outcome_eq_ok_iff {x : Exchange} {a : α} :
    x.outcome decode = .ok a ↔ ∃ status body, x = .answered status (some body) ∧
      200 ≤ status ∧ status ≤ 299 ∧ decode body = .ok a := by
  constructor
  · intro h
    cases x with
    | refused | stalled | broken report => cases h
    | answered status body =>
      unfold outcome at h
      dsimp only at h
      split at h
      · cases h
      · split at h
        · next hfine =>
          cases body with
          | none => cases h
          | some text => exact ⟨status, text, rfl, hfine.1, hfine.2, h⟩
        · cases h
  · rintro ⟨status, body, rfl, hlow, hhigh, h⟩
    rw [outcome_answered hlow hhigh, h]

theorem attempts_tryCall_ne_nil (first : Request) (budget attempt : Nat) :
    (tryCall node decode first (budget + 1) attempt).attempts ≠ [] := by
  rw [tryCall]
  split
  · exact List.cons_ne_nil _ _
  · split <;> exact List.cons_ne_nil _ _

namespace Client

variable {c : Client} {q : Query α}

/-- The client is the same one, perhaps after some calls. -/
def Same (c c' : Client) : Prop :=
  c'.network = c.network ∧ c'.serial = c.serial

theorem Same.trans {a b c : Client} (h : a.Same b) (h' : b.Same c) : a.Same c :=
  ⟨h'.1.trans h.1, h'.2.trans h.2⟩

theorem same_of_ask {c' : Client} {call : Call α} (h : c.ask node q = (call, c')) : c.Same c' := by
  unfold ask Client.call at h
  dsimp only at h
  split at h <;>
    · cases h
      exact ⟨rfl, rfl⟩

theorem outcome_ask {last : Request} (h : (c.ask node q).1.attempts.getLast? = some last) :
    (c.ask node q).1.outcome = (node last).outcome q.decode := by
  unfold ask call at h ⊢
  dsimp only at h ⊢
  split at h
  · cases h
  · exact outcome_of_getLast? h

theorem exists_answer {a : α} (h : (c.ask node q).1.outcome = .ok a) :
    ∃ last status body, (c.ask node q).1.attempts.getLast? = some last ∧
      node last = .answered status (some body) ∧ 200 ≤ status ∧ status ≤ 299 ∧
      q.decode body = .ok a := by
  have hne : (c.ask node q).1.attempts ≠ [] := by
    intro hnil
    unfold ask call at h hnil
    cases hurl : checkEndpoint c.network.httpUrl with
    | error fault =>
      simp only [hurl] at h
      cases h
    | ok _ =>
      simp only [hurl] at hnil
      exact attempts_tryCall_ne_nil _ _ _ hnil
  have hlast := List.getLast?_eq_some_getLast hne
  rw [outcome_ask hlast, Exchange.outcome_eq_ok_iff] at h
  obtain ⟨status, body, hnode, hlow, hhigh, hdecode⟩ := h
  exact ⟨_, status, body, hlast, hnode, hlow, hhigh, hdecode⟩

theorem attempts_ask_of_ok {a : α} (hurl : checkEndpoint c.network.httpUrl = .ok ())
    (h : (node ⟨c.network.httpUrl, c.nextId, q.method, q.params, 1⟩).outcome q.decode = .ok a) :
    (c.ask node q).1.attempts = [⟨c.network.httpUrl, c.nextId, q.method, q.params, 1⟩] := by
  simp only [ask, call, hurl, maxAttempts, tryCall, h]

end Client

namespace Clients

variable {registry : Registry} {cs cs' : Clients}

inductive Used (registry : Registry) (cs : Clients) : Clients → Prop
  | idle : Used registry cs cs
  | asked (name : String) (client : Client) (same : (cs.get registry name).1.Same client) :
      Used registry cs ((cs.get registry name).2.keep client)

theorem used_keep {name : String} {client client' : Client} (hget : cs.get registry name = (client, cs'))
    (hsame : client.Same client') : cs.Used registry (cs'.keep client') := by
  have hused : (cs.get registry name).1.Same client' →
      cs.Used registry ((cs.get registry name).2.keep client') := .asked name client'
  rw [hget] at hused
  exact hused hsame

/-- Every client is kept under the id of its network, which some name means. -/
def Faithful (registry : Registry) (cs : Clients) : Prop :=
  ∀ id client, cs.table.get? id = some client →
    client.network.id = id ∧ ∃ name, client.network = registry.resolve name

theorem faithful_empty (registry : Registry) : Faithful registry {} := by
  intro id client h
  cases h

theorem Faithful.put (h : cs.Faithful registry) (client : Client) {name : String}
    (hclient : client.network = registry.resolve name) :
    Faithful registry ⟨cs.table.put client.network.id client⟩ := by
  intro id found hfound
  rw [Table.get?_put] at hfound
  split at hfound
  · next hid =>
    obtain rfl := Option.some.inj hfound
    exact ⟨hid, name, hclient⟩
  · exact h id found hfound

/-- The client of a name is the client of its network. -/
theorem Faithful.get (h : cs.Faithful registry) (hsound : registry.Sound) (name : String) :
    (cs.get registry name).1.network = registry.resolve name ∧
      (cs.get registry name).2.Faithful registry := by
  unfold Clients.get
  dsimp only
  split
  · next client hfound =>
    obtain ⟨hid, other, hother⟩ := h _ client hfound
    refine ⟨?_, h⟩
    rw [hother] at hid ⊢
    exact hsound.resolve_eq_of_id hid
  · exact ⟨rfl, h.put ⟨cs.size, registry.resolve name, 1⟩ rfl⟩

theorem Faithful.used (h : cs.Faithful registry) (hsound : registry.Sound)
    (hused : cs.Used registry cs') : cs'.Faithful registry := by
  cases hused with
  | idle => exact h
  | asked name client same =>
    obtain ⟨hname, hmore⟩ := h.get hsound name
    exact hmore.put client (same.1.trans hname)

end Clients

end MempoolGate.Rpc
