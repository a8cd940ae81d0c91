import ValidatorForge.Proofs.Dispatch.CommittedArtifacts

/-!
# Repeated runs

A run that has succeeded leaves the name of everything that it needs taken: the markers of the types
in its cache and its validator.  The same run on the resulting sink starts from an empty cache and
searches again, but each of its emissions finds the name taken and is passed over.

* `not_stops_of_taken`: a search does not stop as long as each type ahead can be looked up and has
  its marker's name taken.  The marker need not have a body.
* `exists_plan_of_taken`: so a run that was planned once is planned again.
* `run_again_unchanged`: the second run succeeds as the first, and leaves the sink as it is.
-/

namespace ValidatorForge

open Sample

namespace Host

variable {host : Host}

/-- A type that a search passes although its marker may have no body: it can be looked up, and the
name of its marker is taken. -/
def Taken (host : Host) (m : MemoryArtifacts) (n : TypeName) : Prop :=
  ∃ t, host.lookUp n = .ok t ∧ t.qualifiedOutputName ∈ m.taken

/-- A search whose sink has all names taken does not stop. -/
theorem not_stops_of_taken {tys : List TypeName} {m : MemoryArtifacts}
    (htaken : ∀ ty ∈ tys, ∀ n, host.Reaches ty n → host.Taken m n) {h : History}
    {p' : Progress MemoryArtifacts} {s : Search MemoryArtifacts} {e : GenerateError}
    (hrun : host.Runs ⟨⟨{}, ⟨m, h⟩⟩, tys.map .visit⟩ s) : ¬ host.Stops s e p' := by
  intro hstop
  have hahead := onlyVisits_of_runs exists_reaches_of_cascadesTo hrun (onlyVisits_reached tys)
  have hmarked : s.progress.Marked m := marked_of_runs hrun rfl
  cases hstop with
  | @lookUp cache out ty rest e hnew hlookUp =>
    obtain ⟨root, hroot, hreach⟩ := hahead ty List.mem_cons_self
    obtain ⟨t, ht, _⟩ := htaken root hroot ty hreach
    rw [hlookUp] at ht
    cases ht
  | @marker cache out out' ty rest t e hnew hlookUp hemit =>
    obtain ⟨root, hroot, hreach⟩ := hahead ty List.mem_cons_self
    obtain ⟨t', ht', hname⟩ := htaken root hroot ty hreach
    obtain rfl : t = t' := Except.ok.inj (hlookUp.symm.trans ht')
    -- the search has only added to the taken names, so the emission is passed over
    have hsink : out.sink = receiveAll m (cache.values.map (·.marker)) := hmarked
    have hclaimed : t.marker.qualifiedName ∈ (out.append (firstSight ty)).sink.taken := by
      show t.qualifiedOutputName ∈ out.sink.taken
      rw [hsink, MemoryArtifacts.mem_taken_receiveAll]
      exact Or.inl hname
    rw [Output.emit_claimed hclaimed] at hemit
    cases hemit

end Host

namespace GenerateCall

variable {c : GenerateCall} {out out' : Output MemoryArtifacts} {p p' : Progress MemoryArtifacts}
  {plan : DispatchPlan}

/-- After a run all names that it has asked for are taken. -/
theorem mem_taken_of_mem_requests {a : Artifact} (h : a ∈ c.requests out) :
    a.qualifiedName ∈ (c.run out).2.sink.taken := by
  rw [sink_run, MemoryArtifacts.mem_taken_receiveAll]
  exact Or.inr ⟨a, h, rfl⟩

/-- A run that was planned once is planned again if the names of all markers in its cache are
taken. -/
theorem exists_plan_of_taken (hplan : c.plan out = (.ok plan, p))
    (htaken : ∀ t ∈ p.cache.values, t.qualifiedOutputName ∈ out'.sink.taken) :
    ∃ plan' p', c.plan out' = (.ok plan', p') := by
  have hahead : ∀ ty ∈ c.spec.requested, ∀ n, c.host.Reaches ty n →
      c.host.Taken out'.sink n := by
    intro ty hty n hreach
    have hcached : n ∈ p.cache.names :=
      (mem_names_iff_reaches hplan).2 ⟨ty, GenerationSpec.mem_requested.1 hty, hreach⟩
    rw [TypeCache.names_eq_map_name] at hcached
    obtain ⟨t, ht, rfl⟩ := List.mem_map.1 hcached
    exact ⟨t, lookUp_of_mem_values hplan ht, htaken t ht⟩
  cases hagain : c.plan out' with
  | mk r p' =>
    cases r with
    | ok plan' => exact ⟨plan', p', rfl⟩
    | error e =>
      rcases DispatchPlan.stopped_or_finished_of_build_error hagain with
        ⟨s, hrun, hstop⟩ | ⟨_, hgroups⟩
      · exact absurd hstop (Host.not_stops_of_taken hahead hrun)
      · -- the groups do not depend on the sink, and the first plan has them
        obtain ⟨_, _, _, _, _, _, _, _, hplanned, _⟩ := DispatchPlan.build_ok hplan
        rw [hplanned] at hgroups
        cases hgroups

/-- A planned run asks again for what it has asked for, under the same names. -/
theorem exists_request_of_planned (hplan : c.plan out = (.ok plan, p)) {plan' : DispatchPlan}
    (hagain : c.plan out' = (.ok plan', p')) {a : Artifact} (ha : a ∈ c.requests out') :
    ∃ b ∈ c.requests out, b.qualifiedName = a.qualifiedName := by
  rw [requests_of_planned hagain] at ha
  rw [requests_of_planned hplan]
  rcases List.mem_append.1 ha with ha | ha
  · obtain ⟨t, ht, rfl⟩ := List.mem_map.1 ha
    have ht' : t ∈ p.cache.values :=
      (mem_values_iff_needs hplan).2 ((mem_values_iff_needs hagain).1 ht)
    exact ⟨t.marker, List.mem_append_left _ (List.mem_map_of_mem ht'), rfl⟩
  · rw [List.mem_singleton.1 ha]
    exact ⟨plan.artifact c.spec, List.mem_append_right _ (List.mem_singleton.2 rfl), rfl⟩

end GenerateCall

/-- A run that has succeeded, into a sink in any state, succeeds again with the same name, and
leaves the taken names and the committed artifacts as they are. -/
theorem run_again_unchanged (c : GenerateCall) (out : Output MemoryArtifacts) {name : String}
    {out' : Output MemoryArtifacts} (h : c.run out = (.ok name, out')) :
    ∃ out'', c.run out' = (.ok name, out'') ∧ out''.sink = out'.sink := by
  obtain ⟨rfl, plan, p, hplan⟩ := GenerateCall.of_run_ok h
  have hrequested : ∀ a ∈ c.requests out, a.qualifiedName ∈ out'.sink.taken := by
    intro a ha
    have htaken := GenerateCall.mem_taken_of_mem_requests ha
    rw [h] at htaken
    exact htaken
  obtain ⟨plan', p', hagain⟩ : ∃ plan' p', c.plan out' = (.ok plan', p') := by
    refine GenerateCall.exists_plan_of_taken hplan fun t ht => hrequested t.marker ?_
    rw [GenerateCall.requests_of_planned hplan]
    exact List.mem_append_left _ (List.mem_map_of_mem ht)
  have hclaimed : ∀ a ∈ c.requests out', a.qualifiedName ∈ out'.sink.taken := by
    intro a ha
    obtain ⟨b, hb, hname⟩ := GenerateCall.exists_request_of_planned hplan hagain ha
    exact hname ▸ hrequested b hb
  have hsink : (c.run out').2.sink = out'.sink := by
    rw [GenerateCall.sink_run, MemoryArtifacts.receiveAll_claimed hclaimed]
  have hvalidator : c.spec.qualifiedName ∈ p'.output.sink.taken := by
    have hmarked : p'.output.sink = receiveAll out'.sink (p'.cache.values.map (·.marker)) :=
      GenerateCall.marked_plan hagain
    rw [hmarked, MemoryArtifacts.mem_taken_receiveAll]
    refine Or.inl (hrequested (plan.artifact c.spec) ?_)
    rw [GenerateCall.requests_of_planned hplan]
    exact List.mem_append_right _ (List.mem_singleton.2 rfl)
  exact ⟨_, Prod.ext (GenerateCall.run_of_taken hagain hvalidator) rfl, hsink⟩

/-- The second run for depots succeeds as its name is taken, although no validator is committed
under it.  The third run succeeds in the same way and changes nothing. -/
theorem depot_run_again_unchanged :
    ∃ out' out'', depotCall.run (afterCalls { sink := {} } [depotCall]) =
        (.ok depotCall.spec.qualifiedName, out') ∧
      depotCall.run out' = (.ok depotCall.spec.qualifiedName, out'') ∧ out''.sink = out'.sink := by
  obtain ⟨out', hrun, _⟩ := depot_second_run
  obtain ⟨out'', hagain, hsink⟩ := run_again_unchanged depotCall _ hrun
  exact ⟨out', out'', hrun, hagain, hsink⟩

end ValidatorForge
