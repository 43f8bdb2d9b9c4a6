import Mathlib.Logic.Basic
import TemplateTree.Build.Builder

/-! # Steps of a build

How a build ends when it starts with a given target. Events never decide what a build does,
so the rules leave them out. -/

deriving instance DecidableEq for TemplateTree.BuildFault

namespace TemplateTree.Build

variable {σ ν ε α β : Type}

/-- Whatever the events so far, the build ends in a result and a target with `post`. -/
def Ends (build : Build σ ε α) (target : σ) (post : Except (BuildFault ε) α → σ → Prop) : Prop :=
  ∀ events, post (build.run.run ⟨target, events⟩).1 (build.run.run ⟨target, events⟩).2.target

/-- The build ends in exactly this result and this target. -/
def EndsIn (build : Build σ ε α) (target : σ) (result : Except (BuildFault ε) α)
    (after : σ) : Prop :=
  build.Ends target fun result' after' => result' = result ∧ after' = after

namespace Ends

variable {build : Build σ ε α} {target : σ} {post : Except (BuildFault ε) α → σ → Prop}

theorem imp {post' : Except (BuildFault ε) α → σ → Prop} (h : build.Ends target post)
    (himp : ∀ result after, post result after → post' result after) : build.Ends target post' :=
  fun events => himp _ _ (h events)

theorem pure {a : α} (h : post (.ok a) target) : (Pure.pure a : Build σ ε α).Ends target post :=
  fun _ => h

theorem throw {fault : BuildFault ε} (h : post (.error fault) target) :
    (MonadExcept.throw fault : Build σ ε α).Ends target post :=
  fun _ => h

theorem report {events : List BuildEvent} {post : Except (BuildFault ε) Unit → σ → Prop}
    (h : post (.ok ()) target) : (Build.report events : Build σ ε Unit).Ends target post :=
  fun _ => h

theorem act {step : Action σ ε α}
    (h : post ((step.run.run target).1.mapError .target) (step.run.run target).2) :
    (Build.act step).Ends target post :=
  fun _ => h

/-- A build goes on after a first part that succeeds, and ends with one that fails. -/
theorem bind {next : α → Build σ ε β} {post' : Except (BuildFault ε) β → σ → Prop}
    (h : build.Ends target post)
    (hok : ∀ a after, post (.ok a) after → (next a).Ends after post')
    (herror : ∀ fault after, post (.error fault) after → post' (.error fault) after) :
    (build >>= next).Ends target post' := by
  intro events
  have hb := h events
  simp only [ExceptT.run_bind, StateT.run_bind]
  cases hr : build.run.run ⟨target, events⟩ with
  | mk result progress =>
      rw [hr] at hb
      cases result with
      | ok a => exact hok a progress.target hb progress.events
      | error fault => exact herror fault progress.target hb

end Ends

namespace EndsIn

variable {build : Build σ ε α} {target middle : σ}

theorem ends {result : Except (BuildFault ε) α} {after : σ}
    {post : Except (BuildFault ε) α → σ → Prop} (h : build.EndsIn target result after)
    (hp : post result after) : build.Ends target post :=
  h.imp fun _ _ ⟨hr, ha⟩ => hr ▸ ha ▸ hp

theorem bind_ok {next : α → Build σ ε β} {post : Except (BuildFault ε) β → σ → Prop} {a : α}
    (h : build.EndsIn target (.ok a) middle) (hn : (next a).Ends middle post) :
    (build >>= next).Ends target post := by
  refine Ends.bind h ?_ ?_
  · rintro _ _ ⟨hr, rfl⟩
    cases hr
    exact hn
  · rintro _ _ ⟨hr, _⟩
    cases hr

theorem bind_error {next : α → Build σ ε β} {post : Except (BuildFault ε) β → σ → Prop}
    {fault : BuildFault ε} (h : build.EndsIn target (.error fault) middle)
    (hp : post (.error fault) middle) : (build >>= next).Ends target post := by
  refine Ends.bind h ?_ ?_
  · rintro _ _ ⟨hr, _⟩
    cases hr
  · rintro _ _ ⟨hr, rfl⟩
    cases hr
    exact hp

theorem checkDepth_ok {config : BuildConfig} {depth : Nat} (h : depth < config.maxDepth)
    (target : σ) : (checkDepth config depth : Build σ ε Unit).EndsIn target (.ok ()) target := by
  rw [checkDepth, if_neg (by omega)]
  exact Ends.pure ⟨rfl, rfl⟩

theorem checkDepth_error {config : BuildConfig} {depth : Nat} (h : config.maxDepth ≤ depth)
    (target : σ) : (checkDepth config depth : Build σ ε Unit).EndsIn target
      (.error (.depthExceeded config.maxDepth)) target := by
  rw [checkDepth, if_pos h]
  exact Ends.throw ⟨rfl, rfl⟩

theorem report (events : List BuildEvent) (target : σ) :
    (Build.report events : Build σ ε Unit).EndsIn target (.ok ()) target :=
  Ends.report ⟨rfl, rfl⟩

end EndsIn

/-! ## New elements -/

section

variable [Target σ ν ε] {config : BuildConfig} {depth : Nat} {text : String}
  {kind : ContentKind} {target after : σ}

theorem startElement_of_too_deep (h : config.maxDepth ≤ depth) :
    (startElement config depth text kind : Build σ ε ν).EndsIn target
      (.error (.depthExceeded config.maxDepth)) target :=
  (EndsIn.checkDepth_error h target).bind_error ⟨rfl, rfl⟩

theorem startElement_of_refused {fault : ε} (hd : depth < config.maxDepth)
    (hc : (Target.createElement (Selector.parseWith config.defaultTag text).tag :
      Action σ ε ν).run.run target = (.error fault, after)) :
    (startElement config depth text kind : Build σ ε ν).EndsIn target
      (.error (.target fault)) after := by
  refine (EndsIn.checkDepth_ok hd target).bind_ok ((EndsIn.report _ target).bind_ok ?_)
  refine EndsIn.bind_error (.act ?_) ⟨rfl, rfl⟩
  rw [hc]
  exact ⟨rfl, rfl⟩

/-- Once a target has made the element, the class and the id are left to set. -/
theorem startElement_of_created {node : ν} {post : Except (BuildFault ε) ν → σ → Prop}
    (hd : depth < config.maxDepth)
    (hc : (Target.createElement (Selector.parseWith config.defaultTag text).tag :
      Action σ ε ν).run.run target = (.ok node, after))
    (hn : Ends (do
      setGiven node "class" (Selector.parseWith config.defaultTag text).className?
      setGiven node "id" (Selector.parseWith config.defaultTag text).id
      return node) after post) :
    (startElement config depth text kind : Build σ ε ν).Ends target post := by
  refine (EndsIn.checkDepth_ok hd target).bind_ok ((EndsIn.report _ target).bind_ok ?_)
  refine EndsIn.bind_ok (.act ?_) hn
  rw [hc]
  exact ⟨rfl, rfl⟩

end

end TemplateTree.Build
