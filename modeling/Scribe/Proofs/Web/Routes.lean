import Scribe.Web.Routes

/-!
# Requests that are handed over

Of all the requests that can be sent to a service, few get to the place that does its work. The
others are answered, or cannot be sent, whatever the service is in the middle of: that changes
nothing, and nothing is seen of it.

## Main results

* `serve_of_accepts`: a request that gets there is answered there.
* `serve_of_not_accepts`: nothing happens for any other one.
* `serve_congr`: services that answer a request alike there serve it alike.
-/

namespace Scribe.Web.Routes

variable {σ : Type} {routes : Routes σ} {r : Request}

/-- Whether a request is handed to the place to which values are posted. -/
def accepts (routes : Routes σ) (r : Request) : Bool :=
  match r.aim with
  | .error _ => false
  | .ok t =>
    t.hasServer && Text.capitals r.method ≠ "OPTIONS" &&
      lead routes.place (Text.capitals r.method) t.isSocket t.place = .route .post

theorem accepts_congr {routes' : Routes σ} (h : routes.place = routes'.place) :
    routes.accepts r = routes'.accepts r := by
  rw [accepts, accepts, h]

theorem serve_of_accepts (h : routes.accepts r = true) :
    routes.serve r = .ok <$> routes.post r := by
  rw [accepts] at h
  unfold serve
  cases haim : r.aim with
  | error e => simp [haim] at h
  | ok t =>
    simp only [haim, Bool.and_eq_true, decide_eq_true_eq] at h
    obtain ⟨⟨hserver, hmethod⟩, hlead⟩ := h
    have hhandle : routes.handle r t = routes.post r := by
      unfold handle
      simp only [hserver, hlead, Bool.not_true, Bool.false_eq_true, if_false, if_neg hmethod]
    simp only [hhandle, map_eq_pure_bind]

/-- A request that is not handed over has one outcome, whatever is done with those that are. -/
theorem exists_outcome_of_not_accepts (h : routes.accepts r = false) :
    ∃ outcome, ∀ routes' : Routes σ, routes'.home = routes.home → routes'.place = routes.place →
      routes'.serve r = pure outcome := by
  unfold serve
  cases haim : r.aim with
  | error e => exact ⟨_, fun _ _ _ => rfl⟩
  | ok t =>
    suffices hanswer : ∃ a, ∀ routes' : Routes σ, routes'.home = routes.home →
        routes'.place = routes.place → routes'.handle r t = pure a by
      obtain ⟨a, ha⟩ := hanswer
      exact ⟨.ok a, fun routes' hhome hplace => by simp only [ha routes' hhome hplace, pure_bind]⟩
    simp only [accepts, haim] at h
    unfold handle
    cases hserver : t.hasServer with
    | false => exact ⟨_, fun _ _ _ => rfl⟩
    | true =>
      cases hlead : lead routes.place (Text.capitals r.method) t.isSocket t.place with
      | nowhere => exact ⟨_, fun _ _ hplace => by simp [hplace, hlead]; rfl⟩
      | wrongScheme => exact ⟨_, fun _ _ hplace => by simp [hplace, hlead]; rfl⟩
      | wrongMethod => exact ⟨_, fun _ _ hplace => by simp [hplace, hlead]; rfl⟩
      | elsewhere path => exact ⟨_, fun _ _ hplace => by simp [hplace, hlead]; rfl⟩
      | route route =>
        by_cases hmethod : Text.capitals r.method = "OPTIONS"
        · rw [hmethod] at hlead
          exact ⟨_, fun _ _ hplace => by simp [hplace, hlead, hmethod]; rfl⟩
        · cases route with
          | post => simp [hserver, hmethod, hlead] at h
          | home => exact ⟨_, fun _ hhome hplace => by simp [hplace, hhome, hlead, hmethod]; rfl⟩
          | file => exact ⟨_, fun _ _ hplace => by simp [hplace, hlead, hmethod]; rfl⟩

theorem serve_of_not_accepts (h : routes.accepts r = false) :
    ∃ outcome, routes.serve r = pure outcome := by
  obtain ⟨outcome, houtcome⟩ := exists_outcome_of_not_accepts h
  exact ⟨outcome, houtcome routes rfl rfl⟩

/-- Nothing but the answer to the request itself can make a difference. -/
theorem serve_congr {routes' : Routes σ} (hhome : routes.home = routes'.home)
    (hplace : routes.place = routes'.place) (hpost : routes.post r = routes'.post r) :
    routes.serve r = routes'.serve r := by
  unfold serve handle
  simp only [hhome, hplace, hpost]

end Scribe.Web.Routes
