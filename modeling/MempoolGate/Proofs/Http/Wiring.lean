import MempoolGate.Proofs.Http.Ledger

namespace MempoolGate

namespace Gateway

variable {registry : Registry} {g g' : Gateway}

/-- The gateway serves these networks, with clients of theirs. -/
structure Wired (registry : Registry) (g : Gateway) : Prop where
  serves : g.registry = registry
  clients : g.clients.Faithful registry

theorem Wired.of_same (h : g.Wired registry) (hregistry : g'.registry = g.registry)
    (hclients : g'.clients = g.clients) : g'.Wired registry :=
  ⟨hregistry.trans h.serves, hclients ▸ h.clients⟩

theorem Wired.subscribe (h : g.Wired registry) (connector : Connector) (id : Uuid) (name : String) :
    (g.subscribe connector id name).2.Wired registry := by
  have hopening := g.opening_of_subscribe connector id name
  generalize g.subscribe connector id name = result at hopening
  obtain ⟨outcome, g'⟩ := result
  cases hopening with
  | refused => exact h
  | unreached | unsubscribed | opened | panicked => exact h.of_same rfl rfl

theorem Wired.release (h : g.Wired registry) (handle : SessionHandle) :
    (g.release handle).2.Wired registry := by
  unfold Gateway.release
  split
  · exact h
  · exact h.of_same rfl rfl

theorem Wired.validate (h : g.Wired registry) (now : Nat) (raw : Option String) :
    (g.validate now raw).2.Wired registry := by
  unfold Gateway.validate
  split
  · exact h
  · exact h.of_same rfl rfl

end Gateway

namespace Http

variable {registry : Registry} {g : Gateway} {s : Surroundings} {r : Request} {route : Route}

theorem Surroundings.Handled.wired {answer : Response × Gateway} (h : Handled s g route answer)
    (hwired : g.Wired registry) (hsound : registry.Sound) : answer.2.Wired registry := by
  cases h with
  | unreadable => exact hwired
  | result result pauses clients used =>
    rw [hwired.serves] at used
    exact ⟨hwired.serves, hwired.clients.used hsound used⟩
  | stream free name =>
    have hsubscribe := hwired.subscribe s.connector s.freshId name
    unfold Surroundings.stream
    split <;> next h =>
      rw [h] at hsubscribe
      exact hsubscribe

theorem wired_serve (hwired : g.Wired registry) (hsound : registry.Sound) :
    (s.serve g r route).2.Wired registry := by
  unfold Surroundings.serve
  split
  · exact (s.handled g r route).wired hwired hsound
  · exact hwired

theorem wired_serveCharged (hwired : g.Wired registry) (hsound : registry.Sound) :
    (s.serveCharged g r route).2.Wired registry := by
  have hvalidate := hwired.validate s.now r.presentedKey
  unfold Surroundings.serveCharged
  split <;> next h =>
    rw [h] at hvalidate
    first
    | exact hvalidate
    | exact wired_serve hvalidate hsound

theorem wired_dispatch (hwired : g.Wired registry) (hsound : registry.Sound) :
    (s.dispatch g r route).2.Wired registry := by
  have hserved : (if route.isCharged then s.serveCharged g r route else s.serve g r route).2.Wired
      registry := by
    split
    · exact wired_serveCharged hwired hsound
    · exact wired_serve hwired hsound
  simp only [Surroundings.dispatch]
  split <;> exact hserved

theorem wired_withoutBody (hwired : g.Wired registry) (response : Response) :
    (Surroundings.withoutBody g response).2.Wired registry := by
  unfold Surroundings.withoutBody
  split
  · exact hwired.release _
  · exact hwired

theorem wired_respond (hwired : g.Wired registry) (hsound : registry.Sound) :
    (s.respond g r).2.Wired registry := by
  simp only [Surroundings.respond]
  split
  · split <;> exact hwired
  · next route _ =>
    have hdispatch : (s.dispatch g r route).2.Wired registry := wired_dispatch hwired hsound
    split
    · exact hwired
    · split
      · exact wired_withoutBody hdispatch _
      · exact hdispatch

theorem Act.wired (act : Act) (hwired : g.Wired registry) (hsound : registry.Sound) :
    (act.after g).Wired registry := by
  cases act with
  | call s r => exact wired_respond hwired hsound
  | release handle => exact hwired.release handle
  | move pump move =>
    simp only [Act.after]
    split
    · exact hwired.of_same rfl rfl
    · exact hwired

/-- Over all that goes on, names mean the same networks and are asked through their own clients. -/
theorem wired_run (hwired : g.Wired registry) (hsound : registry.Sound) (acts : List Act) :
    (run g acts).Wired registry := by
  induction acts generalizing g with
  | nil => exact hwired
  | cons act acts ih => exact ih (act.wired hwired hsound)

end Http

end MempoolGate
