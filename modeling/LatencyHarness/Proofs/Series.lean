import LatencyHarness.Proofs.Conduct

/-! Things that happen one after the other on the way from one session to another.

A series counts all steps of a sort: before, between and after them there is nothing but actions of
a kind to which they do not belong. What is said of a series is therefore exact. -/
namespace LatencyHarness.Session

variable {σ : Type} [Host σ] {α : Type} {A : Action → Prop}
  {step : Session σ → α → Session σ → Prop}

/-- Between two sessions these steps are taken, in this order, and besides only actions of a
kind. -/
inductive Series (A : Action → Prop) (step : Session σ → α → Session σ → Prop) :
    Session σ → List α → Session σ → Prop
  | done {s s' : Session σ} (h : s.Reaches A s') : Series A step s [] s'
  | next {s t u s' : Session σ} {x : α} {xs : List α} (h : s.Reaches A t) (hx : step t x u)
      (hxs : Series A step u xs s') : Series A step s (x :: xs) s'

namespace Series

variable {s s' t : Session σ} {x : α} {xs ys : List α}

theorem refl (s : Session σ) : Series A step s [] s := .done (.refl s)

theorem cons (hx : step s x t) (hxs : Series A step t xs s') : Series A step s (x :: xs) s' :=
  .next (.refl s) hx hxs

theorem one (hx : step s x s') : Series A step s [x] s' := .cons hx (.refl s')

theorem before (h : s.Reaches A t) (hxs : Series A step t xs s') : Series A step s xs s' := by
  cases hxs with
  | done h' => exact .done (h.trans h')
  | next h' hx hxs => exact .next (h.trans h') hx hxs

theorem append (hxs : Series A step s xs t) (hys : Series A step t ys s') :
    Series A step s (xs ++ ys) s' := by
  induction hxs with
  | done h => exact hys.before h
  | next h hx _ ih => exact .next h hx (ih hys)

theorem after (hxs : Series A step s xs t) (h : t.Reaches A s') : Series A step s xs s' := by
  rw [← List.append_nil xs]
  exact hxs.append (.done h)

/-- Where the steps and what is done between them are of a kind, so is the whole series. -/
theorem reaches {B : Action → Prop} (hA : ∀ a, A a → B a)
    (hstep : ∀ t x u, step t x u → t.Reaches B u) (hxs : Series A step s xs s') :
    s.Reaches B s' := by
  induction hxs with
  | done h => exact h.mono hA
  | next h hx _ ih => exact ((h.mono hA).trans (hstep _ _ _ hx)).trans ih

end Series

end LatencyHarness.Session
