import ShaderDepot.Proofs.Depot.Concerns
import ShaderDepot.Proofs.Depot.Refreshed

/-!
# What one request adds to the counts

A request compiles some programs, each at most once (`Request.compiles`), and the compiles that fail are
those that leave a program invalid.  Only binding a pipeline makes a pipeline anew, and that one only
(`Depot.tallied_run`).
-/

namespace ShaderDepot

namespace Depot

open Device Journal DeviceM

variable {s : Storage} {r r' r'' : Depot} {j j' : Journal} {id : ProgramId} {p : Program}
  {ids pending : List ProgramId}

def compileCountOf (r : Depot) (id : ProgramId) : Nat :=
  ((r.program? id).map (·.compileCount)).getD 0

def isInvalid (r : Depot) (id : ProgramId) : Bool := (r.program? id).any (·.build = .invalid)

def buildCountOf (r : Depot) (id : PipelineId) : Nat := ((r.pipeline? id).map (·.buildCount)).getD 0

/-! ## Compiling -/

/-- The programs were compiled once for each time that they are listed, and no others. -/
structure Compiles (r : Depot) (ids : List ProgramId) (r' : Depot) : Prop where
  others : ∀ id, id ∉ ids → r'.program? id = r.program? id
  counts : ∀ id, r'.compileCountOf id = r.compileCountOf id + ids.count id
  failures : r'.failures = r.failures + ids.countP r'.isInvalid

theorem Compiles.refl (r : Depot) : Compiles r [] r := ⟨fun _ _ => rfl, fun _ => rfl, rfl⟩

theorem Compiles.cons (h : Compiles r [id] r') (h' : Compiles r' ids r'') (hid : id ∉ ids) :
    Compiles r (id :: ids) r'' where
  others a ha := by
    rw [List.mem_cons, not_or] at ha
    rw [h'.others a ha.2, h.others a (List.mem_singleton.not.mpr ha.1)]
  counts a := by
    have hrest := h'.counts a
    have hfirst := h.counts a
    rw [List.count_singleton] at hfirst
    rw [List.count_cons]
    omega
  failures := by
    have hrest := h'.failures
    have hfirst := h.failures
    -- How the first compile ended is seen at the end still, for its program is not compiled again.
    have hsame : r''.isInvalid id = r'.isInvalid id := by
      rw [isInvalid, h'.others id hid]
      rfl
    rw [List.countP_singleton] at hfirst
    rw [List.countP_cons, hsame]
    omega

theorem compileCountOf_of_program? (hp : r.program? id = some p) :
    r.compileCountOf id = p.compileCount := by
  rw [compileCountOf, hp]
  rfl

theorem InOrder.compiles_compile (h : r.InOrder j (id :: pending) []) (hp : r.program? id = some p) :
    Compiles r [id] ((r.compile id).play j).1 where
  others a ha := program?_compile_of_ne r (List.mem_singleton.not.mp ha) j
  counts a := by
    by_cases ha : a = id
    · obtain ⟨p', hp', -, hcount⟩ := h.counted_compile hp
      rw [ha, compileCountOf_of_program? hp', compileCountOf_of_program? hp, hcount,
        List.count_singleton_self]
    · rw [compileCountOf, program?_compile_of_ne r ha j,
        List.count_eq_zero_of_not_mem (List.mem_singleton.not.mpr ha)]
      rfl
  failures := by
    have hnew := Program.recompiled_compile h.sound (h.owns.settled id p hp) (r.resolveProgram p).value
      r.settings.listOnError
    rw [play_compile_eq hp]
    generalize (p.compile (r.resolveProgram p).value r.settings.listOnError).play j = out at hnew ⊢
    have hprogram : (r.setProgram id out.1).program? id = some out.1 := by
      rw [program?_setProgram_of hp, if_pos rfl]
    have hinvalid : (r.setProgram id out.1).isInvalid id = !out.1.isValid := by
      rw [isInvalid, hprogram, Option.any_some, Program.isValid]
      rcases hnew.outcome with ⟨hbuild, -⟩ | ⟨hbuild, -⟩ <;> rw [hbuild] <;> rfl
    show (if out.1.isValid then r.failures else r.failures + 1) =
      r.failures + [id].countP (r.setProgram id out.1).isInvalid
    rw [List.countP_singleton, hinvalid]
    cases out.1.isValid <;> rfl

theorem play_recompile (r : Depot) (id : ProgramId) (j : Journal) :
    (r.recompile id).play j = (((r.compile id).play j).1.spoilDependents id, ((r.compile id).play j).2) := by
  rw [recompile, play_bind, play_pure]

theorem InOrder.compiles_recompile (h : r.InOrder j (id :: pending) [])
    (hp : r.program? id = some p) : Compiles r [id] ((r.recompile id).play j).1 := by
  have hcompiles := h.compiles_compile hp
  rw [play_recompile, Depot.spoilDependents, foldl_spoilPipeline_eq]
  exact ⟨hcompiles.others, hcompiles.counts, hcompiles.failures⟩

theorem InOrder.compiles_foldlM (h : r.InOrder j ids []) (hn : ids.Nodup)
    (hs : ∀ id ∈ ids, (r.program? id).isSome) :
    Compiles r ids ((ids.foldlM Depot.recompile r).play j).1 := by
  induction ids generalizing r j with
  | nil =>
    rw [List.foldlM_nil, play_pure]
    exact .refl r
  | cons id ids ih =>
    obtain ⟨hid, hn⟩ := List.nodup_cons.mp hn
    obtain ⟨p, hp⟩ := Option.isSome_iff_exists.mp (hs id (List.mem_cons_self ..))
    have hfirst := h.compiles_recompile hp
    rw [List.foldlM_cons, play_bind]
    apply hfirst.cons (ih h.recompile hn _) hid
    intro a ha
    have hne : a ∉ [id] := List.mem_singleton.not.mpr fun e => hid (e ▸ ha)
    rw [hfirst.others a hne]
    exact hs a (List.mem_cons_of_mem _ ha)

/-- A program that is added was not compiled yet. -/
theorem compileCountOf_addProgram (r : Depot) (key : ProgramKey) (entry : FileId) (id : ProgramId) :
    (r.addProgram key entry).compileCountOf id = r.compileCountOf id := by
  rw [compileCountOf, program?_addProgram]
  split
  · next e =>
    have hnone : r.program? id = none := by
      rw [e]
      exact Array.getElem?_size
    rw [compileCountOf, hnone]
    rfl
  · rfl

theorem isSome_program?_of_mem_affected (h : id ∈ r.affected s) : (r.program? id).isSome := by
  have hlt := mem_programIds.mp (List.mem_filter.mp h).1
  rw [program?, Array.getElem?_eq_getElem hlt]
  rfl

/-! ## What compiles nothing -/

/-- Nothing is counted. -/
structure Idle (r r' : Depot) : Prop where
  counts : ∀ id, r'.compileCountOf id = r.compileCountOf id
  failures : r'.failures = r.failures
  builds : ∀ id, r'.buildCountOf id = r.buildCountOf id

theorem Idle.of_eq (hprograms : r'.programs = r.programs) (hpipelines : r'.pipelines = r.pipelines)
    (hfailures : r'.failures = r.failures) : Idle r r' where
  counts id := by
    rw [compileCountOf, program?, hprograms]
    rfl
  failures := hfailures
  builds id := by
    rw [buildCountOf, pipeline?, hpipelines]
    rfl

theorem Idle.refl (r : Depot) : Idle r r := .of_eq rfl rfl rfl

theorem idle_withProgram {α : Type} (r : Depot) (id : ProgramId) {f : Program → DeviceM (α × Program)}
    (hfixed : ∀ p, ((f p).play j).1.2.fixed = p.fixed) :
    Idle r ((r.withProgram id f).play j).1.2 := by
  cases hp : r.program? id with
  | none =>
    simp only [Depot.withProgram, hp, play_pure]
    exact .refl r
  | some p =>
    simp only [Depot.withProgram, hp, play_bind, play_pure]
    have hcount : ((f p).play j).1.2.compileCount = p.compileCount :=
      (congrArg Program.compileCount (hfixed p) :)
    refine ⟨fun a => ?_, rfl, fun _ => rfl⟩
    rw [compileCountOf, map_program?_setProgram hp hcount]
    rfl

theorem idle_changeProgram (r : Depot) (id : ProgramId) {f : Program → DeviceM Program}
    (hfixed : ∀ p, ((f p).play j).1.fixed = p.fixed) :
    Idle r ((r.changeProgram id f).play j).1.2 := by
  apply idle_withProgram
  intro p
  simp only [play_bind, play_pure]
  exact hfixed p

/-- A pipeline that is added was not made yet. -/
theorem buildCountOf_addPipeline (r : Depot) (slots : StageSlots) (id : PipelineId) :
    (r.addPipeline slots).buildCountOf id = r.buildCountOf id := by
  rw [buildCountOf, pipeline?_addPipeline]
  split
  · next e =>
    have hnone : r.pipeline? id = none := by
      rw [e]
      exact Array.getElem?_size
    rw [buildCountOf, hnone]
    rfl
  · rfl

theorem idle_pipeline (r : Depot) (slots : StageSlots) : Idle r (r.pipeline slots).value.2 := by
  unfold Depot.pipeline
  split
  · exact .refl r
  · split
    · exact .refl r
    · have hbuilds := buildCountOf_addPipeline r slots
      obtain ⟨dependents, heq⟩ := addPipeline_eq r slots
      show Idle r (r.addPipeline slots)
      rw [heq] at hbuilds ⊢
      exact ⟨fun _ => rfl, rfl, hbuilds⟩

theorem idle_watch (r : Depot) (disk : Disk) (root : String) :
    Idle r (r.watch disk root).value.2 := by
  unfold watch
  split
  · exact .refl r
  · exact .of_eq rfl rfl rfl

/-! ## Making pipelines -/

theorem buildCountOf_setPipeline {id : PipelineId} {p : Pipeline} (hp : r.pipeline? id = some p)
    (p' : Pipeline) (a : PipelineId) :
    (r.setPipeline id p').buildCountOf a = if id = a then p'.buildCount else r.buildCountOf a := by
  rw [buildCountOf, pipeline?_setPipeline_of hp]
  split <;> rfl

/-- Of the pipelines only one was made anew, as often as the device made one. -/
structure Builds (r : Depot) (j : Journal) (id : PipelineId) (r' : Depot) (j' : Journal) : Prop where
  programs : r'.programs = r.programs
  failures : r'.failures = r.failures
  others : ∀ a, id ≠ a → r'.buildCountOf a = r.buildCountOf a
  built : r'.buildCountOf id + (j.issues .pipeline).length =
    r.buildCountOf id + (j'.issues .pipeline).length

theorem builds_rebind {id : PipelineId} {p : Pipeline} (hp : r.pipeline? id = some p)
    {out : (Except DepotError Unit × Depot) × Journal} (hout : Rebinds r id p j out) :
    Builds r j id out.1.2 out.2 := by
  have hremade := p.remade_rebuild r.programs j
  have hcount : r.buildCountOf id = p.buildCount := by
    rw [buildCountOf, hp]
    rfl
  have hset : ∀ {p' : Pipeline} {j' : Journal}, p.Remade j p' j' →
      Builds r j id (r.setPipeline id p') j' := by
    intro p' j' hr
    have hbuilt := hr.built
    refine ⟨rfl, rfl, fun a ha => ?_, ?_⟩
    · rw [buildCountOf_setPipeline hp, if_neg ha]
    · rw [buildCountOf_setPipeline hp, if_pos rfl, hcount]
      omega
  cases hout with
  | refused fault hbuilt =>
    rw [hbuilt] at hremade
    exact hset hremade
  | bound hbuilt =>
    rw [hbuilt] at hremade
    have hbuilds := hset hremade
    refine ⟨rfl, rfl, hbuilds.others, ?_⟩
    rw [issues_push_of_none rfl]
    exact hbuilds.built

theorem InOrder.builds_bind (h : r.InOrder j [] []) (id : PipelineId) :
    Builds r j id ((r.bind id).play j).1.2 ((r.bind id).play j).2 := by
  have hbinds := h.binds id
  generalize (r.bind id).play j = out at hbinds
  cases hbinds with
  | unknown hp => exact ⟨rfl, rfl, fun _ _ => rfl, rfl⟩
  | skipped hp hclean hbound => exact ⟨rfl, rfl, fun _ _ => rfl, rfl⟩
  | bound hp hclean hx =>
    refine ⟨rfl, rfl, fun _ _ => rfl, ?_⟩
    rw [issues_push_of_none rfl]
    rfl
  | remade hp hdirty hout => exact builds_rebind hp hout

/-- To compile a program again makes no pipeline anew. -/
theorem buildCountOf_recompile (r : Depot) (id : ProgramId) (j : Journal) (a : PipelineId) :
    ((r.recompile id).play j).1.buildCountOf a = r.buildCountOf a := by
  rw [buildCountOf, pipeline?_recompile]
  split
  · rw [Option.map_map]
    rfl
  · rfl

end Depot

/-! ## Requests -/

namespace Request

/-- The programs that a request compiles. -/
def compiles (s : Storage) (r : Depot) : Request → List ProgramId
  | program path stage defines =>
    if (r.findProgram? path stage defines).isSome then [] else [⟨r.programs.size⟩]
  | update => r.affected s
  | _ => []

/-- The pipeline that a request binds. -/
def binds? : Request → Option PipelineId
  | bind id => some id
  | _ => none

end Request

namespace Depot

open Device Journal DeviceM

variable {s : Storage} {r r' : Depot} {j j' : Journal} {request : Request}

/-- What a request adds to the counts. -/
structure Tallied (s : Storage) (request : Request) (r : Depot) (j : Journal) (r' : Depot)
    (j' : Journal) : Prop where
  nodup : (request.compiles s r).Nodup
  counts : ∀ id, r'.compileCountOf id = r.compileCountOf id + (request.compiles s r).count id
  failures : r'.failures = r.failures + (request.compiles s r).countP r'.isInvalid
  /-- A pipeline was made anew as often as the device made one for it. -/
  builds : ∀ id, r'.buildCountOf id +
      (if request.binds? = some id then (j.issues .pipeline).length else 0) =
    r.buildCountOf id + if request.binds? = some id then (j'.issues .pipeline).length else 0

theorem Idle.tallied (h : Idle r r') (hcompiles : request.compiles s r = [])
    (hbinds : request.binds? = none) : Tallied s request r j r' j' where
  nodup := by
    rw [hcompiles]
    exact List.nodup_nil
  counts id := by
    rw [hcompiles]
    exact h.counts id
  failures := by
    rw [hcompiles]
    exact h.failures
  builds id := by
    rw [hbinds, if_neg nofun, if_neg nofun]
    exact h.builds id

theorem Compiles.tallied (h : Compiles r (request.compiles s r) r')
    (hn : (request.compiles s r).Nodup) (hbuilds : ∀ id, r'.buildCountOf id = r.buildCountOf id)
    (hbinds : request.binds? = none) : Tallied s request r j r' j' where
  nodup := hn
  counts := h.counts
  failures := h.failures
  builds id := by
    rw [hbinds, if_neg nofun, if_neg nofun]
    exact hbuilds id

theorem tallied_program (h : r.InOrder j [] []) (s : Storage) (path : String) (stage : Stage)
    (defines : List Define) :
    Tallied s (.program path stage defines) r j ((r.program s path stage defines).play j).1.2
      ((r.program s path stage defines).play j).2 := by
  cases hk : r.findKey? (keyOf path stage defines) with
  | some id =>
    simp only [Depot.program, hk, play_pure]
    have hfound : r.findProgram? path stage defines = some id := hk
    apply (Idle.refl r).tallied _ rfl
    rw [Request.compiles, hfound]
    rfl
  | none =>
    have hnone : r.findProgram? path stage defines = none := hk
    have hlist : Request.compiles s r (.program path stage defines) = [⟨r.programs.size⟩] := by
      rw [Request.compiles, hnone]
      rfl
    obtain ⟨-, -, -, hfind⟩ :=
      IncludeGraph.settled_intern s h.indexed.graph (keyOf path stage defines).path
    have hadded := (h.source s (keyOf path stage defines).path).addProgram hk hfind ⟨path, rfl⟩
    rw [play_program_of_none hk]
    have hcompiles := hadded.compiles_compile ((program?_addProgram ..).trans (if_pos rfl))
    refine ⟨?_, fun a => ?_, ?_, fun a => ?_⟩
    · rw [hlist]
      exact List.nodup_singleton _
    · rw [hlist]
      exact (hcompiles.counts a).trans (congrArg (· + _) (compileCountOf_addProgram ..))
    · rw [hlist]
      exact hcompiles.failures
    · have hbinds : Request.binds? (.program path stage defines) = none := rfl
      have hnot : none ≠ some a := (Option.some_ne_none a).symm
      rw [hbinds, if_neg hnot, if_neg hnot, buildCountOf, pipeline?, pipelines_compile]
      rfl

theorem tallied_update (h : r.InOrder j [] []) (s : Storage) :
    Tallied s .update r j ((r.update s).play j).1.2 ((r.update s).play j).2 := by
  have hcompiles := (h.reread s).compiles_foldlM (nodup_affected s r)
    fun id hid => isSome_program?_of_mem_affected (r := r) hid
  have hbuilds := play_foldlM
    (motive := fun _ (r' : Depot) _ => ∀ id, r'.buildCountOf id = r.buildCountOf id)
    Depot.recompile (r.affected s) (b := r.reread s) (j := j) (fun _ => rfl)
    fun id _ r' j' hr a => (buildCountOf_recompile r' id j' a).trans (hr a)
  rw [play_update]
  -- To read files again compiles nothing.
  have hfrom : Compiles r (r.affected s) (((r.affected s).foldlM recompile (r.reread s)).play j).1 :=
    ⟨hcompiles.others, hcompiles.counts, hcompiles.failures⟩
  exact hfrom.tallied (nodup_affected s r) hbuilds rfl

theorem tallied_bind (h : r.InOrder j [] []) (s : Storage) (id : PipelineId) :
    Tallied s (.bind id) r j ((r.bind id).play j).1.2 ((r.bind id).play j).2 := by
  have hbuilds := h.builds_bind id
  refine ⟨List.nodup_nil, fun a => ?_, hbuilds.failures, fun a => ?_⟩
  · rw [compileCountOf, program?, hbuilds.programs]
    rfl
  · rw [Request.binds?]
    by_cases ha : id = a
    · rw [if_pos (congrArg some ha), if_pos (congrArg some ha), ← ha]
      exact hbuilds.built
    · have hne : some id ≠ some a := fun e => ha (Option.some.inj e)
      rw [if_neg hne, if_neg hne]
      exact hbuilds.others a ha

theorem tallied_run (h : r.InOrder j [] []) (s : Storage) (request : Request) :
    Tallied s request r j ((request.run s r).play j).1 ((request.run s r).play j).2 := by
  cases request with
  | source path =>
    rw [Request.run, play_map, play_source]
    exact Idle.tallied (.of_eq rfl rfl rfl) rfl rfl
  | program path stage defines =>
    rw [Request.run, play_map]
    exact tallied_program h s path stage defines
  | resolve id =>
    rw [Request.run, play_map]
    exact (Idle.refl r).tallied rfl rfl
  | location id name =>
    rw [Request.run, play_map]
    exact (idle_withProgram r id fun p => Program.fixed_location p name j).tallied rfl rfl
  | setUniform id name value =>
    rw [Request.run, play_map]
    exact (idle_changeProgram r id fun p => Program.fixed_setUniform p name value j).tallied rfl rfl
  | bindUniformBlock id block n =>
    rw [Request.run, play_map]
    exact (idle_changeProgram r id fun p => Program.fixed_bindBlock p .uniform block n j).tallied rfl rfl
  | bindStorageBlock id block n =>
    rw [Request.run, play_map]
    exact (idle_changeProgram r id fun p => Program.fixed_bindBlock p .storage block n j).tallied rfl rfl
  | pipeline slots =>
    rw [Request.run, play_map, play_ofTraced (calls_pipeline r slots)]
    exact (idle_pipeline r slots).tallied rfl rfl
  | bind id =>
    rw [Request.run, play_map]
    exact tallied_bind h s id
  | invalidate =>
    rw [Request.run, play_pure]
    exact Idle.tallied (.of_eq rfl rfl rfl) rfl rfl
  | dispatchGroups groups | dispatchThreads threads =>
    rw [Request.run, play_map]
    exact (Idle.refl r).tallied rfl rfl
  | notify path =>
    rw [Request.run, play_pure, notify_eq]
    exact Idle.tallied (.of_eq rfl rfl rfl) rfl rfl
  | watch disk root =>
    rw [Request.run, play_map, play_ofTraced (calls_watch r disk root)]
    exact (idle_watch r disk root).tallied rfl rfl
  | unwatch =>
    rw [Request.run, play_pure]
    exact Idle.tallied (.of_eq rfl rfl rfl) rfl rfl
  | update =>
    rw [Request.run, play_map]
    exact tallied_update h s

end Depot

end ShaderDepot
