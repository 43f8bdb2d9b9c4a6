import TemplateTree.Proofs.Build.Follow

/-! # Where builds stop

A build stops at the first element that lies too deep or has a refused tag, and until then it
does what it would do without limits. -/

namespace TemplateTree

namespace Directive

variable {config : BuildConfig} {rejected : List String} {script : List Directive}

theorem findSome?_fault?_eq_none (h : ∀ site ∈ made script, site.fault? config rejected = none) :
    script.findSome? (fault? config rejected) = none := by
  rw [List.findSome?_eq_none_iff]
  intro directive hd
  cases hs : directive.site? with
  | none => rw [fault?, hs, Option.bind_none]
  | some site =>
      rw [fault?, hs, Option.bind_some]
      exact h site (List.mem_filterMap.mpr ⟨directive, hd, hs⟩)

/-- An element that a script makes has a step of its own. -/
theorem exists_append_of_made_eq {before after : List Site} {site : Site}
    (h : made script = before ++ site :: after) :
    ∃ first rest, script = first ++ make site :: rest ∧ made first = before := by
  obtain ⟨first, second, rfl, hb, hs⟩ := List.filterMap_eq_append_iff.mp h
  obtain ⟨idle, directive, rest, rfl, hi, hd, -⟩ := List.filterMap_eq_cons_iff.mp hs
  have hmake : directive = make site := by
    cases directive with
    | make other => exact congrArg make (Option.some.inj hd)
    | setAttribute | setText | append => cases hd
  refine ⟨first ++ idle, rest, by rw [hmake, List.append_assoc], ?_⟩
  have hn : made idle = [] := List.filterMap_eq_nil_iff.mpr hi
  rw [made_append, hn, List.append_nil]
  exact hb

end Directive

namespace Template

variable {log : CallLog} {config : BuildConfig} {template : Template Nat}

open FirstFault

theorem build_follows (log : CallLog) (config : BuildConfig) (template : Template Nat) :
    let script := template.script config.defaultTag 0 log.created
    let fault? := Directive.fault? config log.rejected
    (template.build config log).result = outcome fault? script (template.root log.created) ∧
      (template.build config log).target = log.follow (reached fault? script) :=
  Build.template_follows template 0 log []

/-- A build that may make all its elements follows the whole script. -/
theorem build_of_no_fault
    (h : ∀ site ∈ template.sites config.defaultTag 0, site.fault? config log.rejected = none) :
    (template.build config log).result = .ok (template.root log.created) ∧
      (template.build config log).target =
        log.follow (template.script config.defaultTag 0 log.created) := by
  rw [← template.made_script config.defaultTag 0 log.created] at h
  have hf := Directive.findSome?_fault?_eq_none h
  obtain ⟨hresult, htarget⟩ := build_follows log config template
  rw [outcome_of_none hf] at hresult
  rw [reached_eq_self hf] at htarget
  exact ⟨hresult, htarget⟩

/-- A build stops right before the first element that it may not make. -/
theorem build_of_fault {before after : List Site} {site : Site} {fault : BuildFault RejectedTag}
    (hs : template.sites config.defaultTag 0 = before ++ site :: after)
    (hb : ∀ earlier ∈ before, earlier.fault? config log.rejected = none)
    (hf : site.fault? config log.rejected = some fault) :
    (template.build config log).result = .error fault ∧
      ∃ first rest, (template.build config log).target = log.follow first ∧
        Directive.made first = before ∧
        template.script config.defaultTag 0 log.created = first ++ .make site :: rest := by
  have hm := (template.made_script config.defaultTag 0 log.created).trans hs
  obtain ⟨first, rest, hscript, hfirst⟩ := Directive.exists_append_of_made_eq hm
  obtain ⟨hresult, htarget⟩ := build_follows log config template
  have hn : first.findSome? (Directive.fault? config log.rejected) = none :=
    Directive.findSome?_fault?_eq_none (hfirst ▸ hb)
  have hmake : (Directive.make site).fault? config log.rejected = some fault := hf
  rw [hscript, outcome_append_of_none hn, outcome_cons_of_some hmake] at hresult
  rw [hscript, reached_append_of_none hn, reached_cons_of_some hmake, List.append_nil] at htarget
  exact ⟨hresult, first, rest, htarget, hfirst, hscript⟩

/-- A build does the same as one without limits, up to the first element in document order
that lies too deep or has a refused tag. There it fails, before it creates the element. -/
theorem build_stops (log : CallLog) (config : BuildConfig) (template : Template Nat)
    {limit : Nat} (hlimit : ∀ site ∈ template.sites config.defaultTag 0, site.depth < limit) :
    let sites := template.sites config.defaultTag 0
    let fault? := Site.fault? config log.rejected
    let run := template.build config log
    let free := template.build { config with maxDepth := limit } { log with rejected := [] }
    ∃ added, free.target.calls = log.calls ++ added ∧
      added.filter Call.isCreate =
        (sites.zipIdx log.created).map (fun (site, number) => .create number site.tag) ∧
      free.result = .ok (template.root log.created) ∧
      ((∀ site ∈ sites, fault? site = none) →
        run.result = free.result ∧ run.target.calls = free.target.calls) ∧
      ∀ before site after fault, sites = before ++ site :: after →
        (∀ earlier ∈ before, fault? earlier = none) → fault? site = some fault →
        run.result = .error fault ∧ ∃ done rest, run.target.calls = log.calls ++ done ∧
          added = done ++ .create (log.created + before.length) site.tag :: rest := by
  intro sites fault? run free
  have hfree : free.result = .ok (template.root log.created) ∧ free.target =
      { log with rejected := [] }.follow (template.script config.defaultTag 0 log.created) := by
    refine build_of_no_fault fun site hs => ?_
    rw [Site.fault?, if_neg (Nat.not_le.mpr (hlimit site hs))]
    rfl
  obtain ⟨hresult, htarget⟩ := hfree
  refine ⟨_, by rw [htarget]; rfl, ?_, hresult, ?_, ?_⟩
  · rw [Directive.filter_isCreate_calls, made_script]
  · intro h
    obtain ⟨hr, ht⟩ := build_of_no_fault h
    rw [hr, hresult, ht, htarget]
    exact ⟨rfl, rfl⟩
  · intro before site after fault hs hb hf
    obtain ⟨hr, first, rest, ht, rfl, hscript⟩ := build_of_fault hs hb hf
    refine ⟨hr, Directive.calls log.created first,
      Directive.calls (log.created + (Directive.made first).length + 1) rest, by rw [ht]; rfl, ?_⟩
    rw [hscript, Directive.calls_append]
    rfl

/-- A list with an existing node, in which one tag is refused before one lies too deep. -/
def outline : Template Nat :=
  .element "ul.top" (.items [.element "li" (.text "one"), .node 7,
    .element "i" (.items [.element "b" (.text "two")]), .element "p" (.text "three")])

theorem build_outline :
    let log : CallLog := { calls := [.setText 2 "old"], created := 3, rejected := ["i", "p"] }
    let config : BuildConfig := { maxDepth := 2 }
    let run := outline.build config log
    let free := outline.build { config with maxDepth := 3 } { log with rejected := [] }
    (∀ site ∈ outline.sites config.defaultTag 0, site.depth < 3) ∧
      free.result = .ok 3 ∧ run.result = .error (.target ⟨"i"⟩) ∧
      ∃ done rest, run.target.calls = log.calls ++ done ∧
        free.target.calls = log.calls ++ (done ++ .create 5 "i" :: rest) := by
  intro log config run free
  have hsites : outline.sites config.defaultTag 0 =
      [⟨0, "ul"⟩, ⟨1, "li"⟩] ++ ⟨1, "i"⟩ :: [⟨2, "b"⟩, ⟨1, "p"⟩] := by decide +kernel
  have hlimit : ∀ site ∈ outline.sites config.defaultTag 0, site.depth < 3 := by
    rw [hsites]
    decide
  have hb : ∀ earlier ∈ [(⟨0, "ul"⟩ : Site), ⟨1, "li"⟩],
      earlier.fault? config log.rejected = none := by
    simp [Site.fault?, config, log]
  have hf : (⟨1, "i"⟩ : Site).fault? config log.rejected = some (.target ⟨"i"⟩) := by
    simp [Site.fault?, config, log]
  obtain ⟨added, hadded, -, hfree, -, hstop⟩ := build_stops log config outline hlimit
  obtain ⟨hrun, done, rest, hdone, rfl⟩ := hstop _ _ _ _ hsites hb hf
  exact ⟨hlimit, hfree, hrun, done, rest, hdone, hadded⟩

end Template

end TemplateTree
