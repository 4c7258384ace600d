import AddRate.Gpu.Device
import AddRate.Kernel.Catalogue

/-!
# What a kernel is dispatched with

A kernel can be dispatched once a binding of it was made, whatever else was asked of its device. It
then reads the two buffers of the last binding that was made. Its parameters are those of the last
binding that was asked for, also if that one was refused: they are written before the buffers are
looked at, and a refusal does not take them back.
-/

namespace AddRate.Gpu

/-! ## Requests -/

/-- What is asked of a device, with what the layer below says to it. -/
inductive Request where
  | createBuffer (label : String) (size : Nat)
  | upload (buffer : Nat) (bytes : ByteArray)
  | build (kernel : Kernel) (refusal : Option String)
  | bind (kernel : Nat) (binding : Binding Nat) (refusal : Option String)
  | enqueue (kernel : Nat) (grid : Grid) (refuses : Dispatch → Option String)
  | finish

/-- The device after a request. One that stops the program leaves the device as it was. -/
def serve (gpu : Gpu) : Request → Gpu
  | .createBuffer label size => (gpu.createBuffer label size).1
  | .upload buffer bytes => (gpu.upload buffer bytes).toOption.getD gpu
  | .build kernel refusal => (gpu.buildUnless refusal kernel).1
  | .bind kernel binding refusal => (gpu.bindUnless refusal kernel binding).1
  | .enqueue kernel grid refuses =>
    ((gpu.enqueueUnless refuses kernel grid).toOption.map Prod.fst).getD gpu
  | .finish => gpu.finish

/-- The device after the requests of a history, the last of which comes first. -/
def after (gpu : Gpu) : List Request → Gpu
  | [] => gpu
  | request :: earlier => (gpu.after earlier).serve request

/-- The binding that a request asks for, if it asks for one of a kernel. -/
def Request.asked? (kernel : Nat) : Request → Option (Binding Nat)
  | .bind target binding _ => if target = kernel then some binding else none
  | _ => none

/-- The binding that a request makes, if it makes one of a kernel. -/
def Request.made? (kernel : Nat) : Request → Option (Binding Nat)
  | .bind target binding none => if target = kernel then some binding else none
  | _ => none

namespace Request

variable {kernel : Nat} {request : Request} {binding : Binding Nat}

@[simp] theorem asked?_bind (kernel : Nat) (binding : Binding Nat) (refusal : Option String) :
    (bind kernel binding refusal).asked? kernel = some binding := by
  simp [asked?]

@[simp] theorem made?_bind_none (kernel : Nat) (binding : Binding Nat) :
    (bind kernel binding none).made? kernel = some binding := by
  simp [made?]

@[simp] theorem made?_bind_some (kernel other : Nat) (binding : Binding Nat) (reason : String) :
    (bind other binding (some reason)).made? kernel = none :=
  rfl

theorem exists_eq_bind_of_asked? (asked : request.asked? kernel = some binding) :
    ∃ refusal, request = .bind kernel binding refusal := by
  cases request with
  | bind other sought refusal =>
      simp only [asked?, Option.ite_none_right_eq_some, Option.some.injEq] at asked
      obtain ⟨rfl, rfl⟩ := asked
      exact ⟨refusal, rfl⟩
  | createBuffer | upload | build | enqueue | finish => cases asked

theorem made?_eq_some_iff :
    request.made? kernel = some binding ↔ request = .bind kernel binding none := by
  constructor
  · intro made
    cases request with
    | bind other sought refusal =>
        cases refusal with
        | some reason => cases made
        | none =>
            simp only [made?, Option.ite_none_right_eq_some, Option.some.injEq] at made
            obtain ⟨rfl, rfl⟩ := made
            rfl
    | createBuffer | upload | build | enqueue | finish => cases made
  · rintro rfl
    exact made?_bind_none kernel binding

/-- What is made was asked for. -/
theorem made?_of_asked?_eq_none (notAsked : request.asked? kernel = none) :
    request.made? kernel = none := by
  cases made : request.made? kernel with
  | none => rfl
  | some binding =>
      rw [made?_eq_some_iff.mp made, asked?_bind] at notAsked
      cases notAsked

variable {history : List Request}

/-- No binding is the last one exactly if none was made. -/
theorem findSome?_made?_eq_none_iff :
    history.findSome? (made? kernel) = none ↔ ¬∃ binding, .bind kernel binding none ∈ history := by
  rw [List.findSome?_eq_none_iff]
  constructor
  · rintro none ⟨binding, member⟩
    have notMade := none _ member
    rw [made?_bind_none] at notMade
    cases notMade
  · intro notMade request member
    cases made : request.made? kernel with
    | none => rfl
    | some binding =>
        rw [made?_eq_some_iff.mp made] at member
        exact absurd ⟨binding, member⟩ notMade

/-- A history cut at the last binding that was made. -/
theorem exists_eq_append_of_findSome?_made? (last : history.findSome? (made? kernel) = some binding) :
    ∃ later earlier, history = later ++ .bind kernel binding none :: earlier ∧
      ∀ other, .bind kernel other none ∉ later := by
  obtain ⟨later, request, earlier, split, made, notLater⟩ := List.findSome?_eq_some_iff.mp last
  cases made?_eq_some_iff.mp made
  refine ⟨later, earlier, split, ?_⟩
  intro other isLater
  have notMade := notLater _ isLater
  rw [made?_bind_none] at notMade
  cases notMade

end Request

/-! ## One request -/

section Serve

variable {gpu : Gpu} {kernel : Nat} {target : DeviceKernel} {request : Request}

theorem kernels_createBuffer (label : String) (size : Nat) (gpu : Gpu) :
    (gpu.createBuffer label size).1.kernels = gpu.kernels := by
  unfold createBuffer
  split <;> rfl

theorem kernels_upload {buffer : Nat} {bytes : ByteArray} {next : Gpu}
    (uploaded : gpu.upload buffer bytes = .ok next) : next.kernels = gpu.kernels := by
  unfold upload at uploaded
  split at uploaded
  · cases uploaded
  · split at uploaded
    · cases uploaded
    · cases uploaded
      rfl

theorem kernels_dispatchBound (refuses : Dispatch → Option String) (params : Params)
    (bound : Nat × Nat) (workgroups : Nat) (gpu : Gpu) :
    (gpu.dispatchBound refuses params bound workgroups).1.kernels = gpu.kernels := by
  unfold dispatchBound submit
  split
  · split <;> rfl
  · rfl

theorem kernels_enqueueUnless {refuses : Dispatch → Option String} {grid : Grid}
    {reply : Gpu × Except RunError Unit}
    (replied : gpu.enqueueUnless refuses kernel grid = .ok reply) :
    reply.1.kernels = gpu.kernels := by
  unfold enqueueUnless at replied
  split at replied
  · cases replied
    rfl
  · split at replied
    · cases replied
      rfl
    · cases counted : grid.workgroups with
      | error trap =>
          rw [counted] at replied
          cases replied
      | ok workgroups =>
          rw [counted] at replied
          cases replied
          exact kernels_dispatchBound ..

/-- A kernel keeps its parameters and its buffers when no binding of it is asked for. -/
theorem kernel_serve_of_not_asked (present : gpu.kernels[kernel]? = some target)
    (notAsked : request.asked? kernel = none) :
    (gpu.serve request).kernels[kernel]? = some target := by
  cases request with
  | createBuffer label size =>
      rw [serve, kernels_createBuffer, present]
  | upload buffer bytes =>
      cases uploaded : gpu.upload buffer bytes with
      | error trap => simpa [serve, uploaded, Except.toOption] using present
      | ok next =>
          have kept := kernels_upload uploaded
          simpa [serve, uploaded, Except.toOption, kept] using present
  | build built refusal =>
      cases refusal with
      | some reason => exact present
      | none =>
          obtain ⟨inside, -⟩ := Array.getElem?_eq_some_iff.mp present
          have different : kernel ≠ gpu.kernels.size := Nat.ne_of_lt inside
          simpa [serve, buildUnless, Array.getElem?_push, different] using present
  | bind other binding refusal =>
      have different : other ≠ kernel := by
        rintro rfl
        simp [Request.asked?] at notAsked
      cases refusal <;>
        simpa [serve, bindUnless, updateKernel, Array.getElem?_modify, different] using present
  | enqueue other grid refuses =>
      cases replied : gpu.enqueueUnless refuses other grid with
      | error trap => simpa [serve, replied, Except.toOption] using present
      | ok reply =>
          have kept := kernels_enqueueUnless replied
          simpa [serve, replied, Except.toOption, kept] using present
  | finish => exact present

/-- A binding that is made leaves its parameters and its buffers. -/
theorem kernel_serve_made (present : gpu.kernels[kernel]? = some target) (binding : Binding Nat) :
    (gpu.serve (.bind kernel binding none)).kernels[kernel]? =
      some { target with params := .of binding, bound := some (binding.input, binding.result) } := by
  simp [serve, bindUnless, updateKernel, Array.getElem?_modify, present]

/-- A binding that is refused leaves its parameters only. -/
theorem kernel_serve_refused (present : gpu.kernels[kernel]? = some target) (binding : Binding Nat)
    (reason : String) :
    (gpu.serve (.bind kernel binding (some reason))).kernels[kernel]? =
      some { target with params := .of binding } := by
  simp [serve, bindUnless, updateKernel, Array.getElem?_modify, present]

end Serve

/-! ## Histories -/

section Histories

variable {start : Gpu} {kernel : Nat} {name : String}

/-- A kernel that was just built is not bound. -/
theorem kernel_buildUnless (built : Kernel) (gpu : Gpu) :
    (gpu.buildUnless none built).1.kernels[gpu.kernels.size]? = some { name := built.name } :=
  Array.getElem?_push_size

/-- After a history a kernel has the parameters of the last binding that was asked for and the buffers
of the last one that was made. -/
theorem kernel_after (fresh : start.kernels[kernel]? = some { name }) (history : List Request) :
    (start.after history).kernels[kernel]? = some {
      name
      params := ((history.findSome? (Request.asked? kernel)).map Params.of).getD {}
      bound := (history.findSome? (Request.made? kernel)).map fun binding =>
        (binding.input, binding.result) } := by
  induction history with
  | nil => exact fresh
  | cons request earlier ih =>
      cases asked : request.asked? kernel with
      | none =>
          have notMade := Request.made?_of_asked?_eq_none asked
          simp only [after, List.findSome?_cons, asked, notMade]
          exact kernel_serve_of_not_asked ih asked
      | some binding =>
          obtain ⟨refusal, rfl⟩ := Request.exists_eq_bind_of_asked? asked
          cases refusal with
          | none =>
              simp only [after, List.findSome?_cons, asked, Request.made?_bind_none]
              exact kernel_serve_made ih binding
          | some reason =>
              simp only [after, List.findSome?_cons, asked, Request.made?_bind_some]
              exact kernel_serve_refused ih binding reason

end Histories

/-! ## Dispatches -/

section Dispatches

variable {gpu : Gpu} {kernel : Nat} {target : DeviceKernel}

theorem enqueueUnless_of_unbound (refuses : Dispatch → Option String) (grid : Grid)
    (present : gpu.kernels[kernel]? = some target) (unbound : target.bound = none) :
    gpu.enqueueUnless refuses kernel grid =
      .ok (gpu, .error (.submission (target.name ++ " dispatched before bind"))) := by
  simp only [enqueueUnless, present, unbound, Gpu.unbound]

theorem enqueueUnless_of_bound {bound : Nat × Nat} {input result : DeviceBuffer}
    (refuses : Dispatch → Option String) (grid : Grid)
    (present : gpu.kernels[kernel]? = some target) (isBound : target.bound = some bound)
    (reads : gpu.buffers[bound.1]? = some input) (writes : gpu.buffers[bound.2]? = some result) :
    gpu.enqueueUnless refuses kernel grid = grid.workgroups.map fun workgroups =>
      gpu.submit refuses {
        workgroups := splitWorkgroups workgroups
        params := target.params
        bound
        input
        result } := by
  simp only [enqueueUnless, present, isBound, dispatchBound, reads, writes]

end Dispatches

/-- From the building of a kernel on, it is dispatched exactly if a binding of it was made, and else
the dispatch fails and nothing is submitted. The dispatch is over the buffers of the last binding that
was made. Its parameters are those of the last binding of the kernel that was refused since, or of the
binding itself if none was. -/
theorem enqueueUnless_after (gpu : Gpu) (built : Kernel) (history : List Request)
    (refuses : Dispatch → Option String) (grid : Grid) :
    let kernel := gpu.kernels.size
    let now := (gpu.buildUnless none built).1.after history
    ((¬∃ binding, .bind kernel binding none ∈ history) →
      now.enqueueUnless refuses kernel grid =
        .ok (now, .error (.submission (built.name ++ " dispatched before bind")))) ∧
    ((∃ binding, .bind kernel binding none ∈ history) →
      ∃ later binding earlier, history = later ++ .bind kernel binding none :: earlier ∧
        (∀ other, .bind kernel other none ∉ later) ∧
        ∀ input result, now.buffers[binding.input]? = some input →
          now.buffers[binding.result]? = some result →
          now.enqueueUnless refuses kernel grid = grid.workgroups.map fun workgroups =>
            now.submit refuses {
              workgroups := splitWorkgroups workgroups
              params := .of ((later.findSome? (Request.asked? kernel)).getD binding)
              bound := (binding.input, binding.result)
              input
              result }) := by
  intro kernel now
  have present := kernel_after (kernel_buildUnless built gpu) history
  constructor
  · intro notMade
    have unbound := Request.findSome?_made?_eq_none_iff.mpr notMade
    exact enqueueUnless_of_unbound refuses grid present (by rw [unbound]; rfl)
  · intro isMade
    have bound := mt Request.findSome?_made?_eq_none_iff.mp (not_not_intro isMade)
    obtain ⟨binding, last⟩ := Option.ne_none_iff_exists'.mp bound
    obtain ⟨later, earlier, split, notLater⟩ := Request.exists_eq_append_of_findSome?_made? last
    have asked : history.findSome? (Request.asked? kernel) =
        some ((later.findSome? (Request.asked? kernel)).getD binding) := by
      rw [split, List.findSome?_append, List.findSome?_cons, Request.asked?_bind, Option.or_some]
    refine ⟨later, binding, earlier, split, notLater, ?_⟩
    intro input result reads writes
    rw [asked, last] at present
    exact enqueueUnless_of_bound refuses grid present rfl reads writes

/-- A device with two buffers that can be bound and one that is too small. -/
def threeBuffers : Gpu where
  name := "small"
  driver := ""
  backend := .vulkan
  type := .other
  features := []
  limits := ⟨1, 1, 1, 16, 16⟩
  storageMemory := none
  buffers := #[⟨.storage, 16, .empty⟩, ⟨.storage, 16, .empty⟩, ⟨.storage, 4, .empty⟩]

/-- A kernel that was never bound, and one whose second binding was refused. -/
theorem enqueueUnless_after_refusal :
    let made : Binding Nat := ⟨0, 7, 1, ⟨1, 1⟩⟩
    let refused : Binding Nat := ⟨2, 9, 1, ⟨2, 1⟩⟩
    let history : List Request := [.bind 0 refused (some "too small"), .bind 0 made none]
    let start := (threeBuffers.buildUnless none .int32Add).1
    let now := start.after history
    (¬∃ binding, .bind 0 binding none ∈ ([] : List Request)) ∧
      start.enqueueUnless (fun _ => none) 0 ⟨1, 1⟩ =
        .ok (start, .error (.submission "int32_add_rate_test dispatched before bind")) ∧
      (∃ binding, .bind 0 binding none ∈ history) ∧
      now.enqueueUnless (fun _ => none) 0 ⟨1, 1⟩ =
        .ok (now.submit (fun _ => none)
          ⟨⟨1, 1, 1⟩, .of refused, (0, 1), ⟨.storage, 16, .empty⟩, ⟨.storage, 16, .empty⟩⟩) := by
  intro made refused history start now
  have never : ¬∃ binding, .bind 0 binding none ∈ ([] : List Request) := by simp
  have isMade : ∃ binding, .bind 0 binding none ∈ history := ⟨made, by simp [history]⟩
  have unbound := (enqueueUnless_after threeBuffers .int32Add [] (fun _ => none) ⟨1, 1⟩).1 never
  obtain ⟨later, binding, earlier, split, -, dispatched⟩ :=
    (enqueueUnless_after threeBuffers .int32Add history (fun _ => none) ⟨1, 1⟩).2 isMade
  have parts : later = [.bind 0 refused (some "too small")] ∧ binding = made := by
    simp only [history] at split
    cases later with
    | nil => simp at split
    | cons first rest =>
        cases rest with
        | nil =>
            simp only [List.cons_append, List.nil_append, List.cons.injEq, Request.bind.injEq]
              at split
            obtain ⟨rfl, ⟨-, rfl, -⟩, -⟩ := split
            exact ⟨rfl, rfl⟩
        | cons second rest => simp at split
  obtain ⟨rfl, rfl⟩ := parts
  exact ⟨never, unbound, isMade, dispatched _ _ rfl rfl⟩

/-- A dispatch after a refused binding reads the buffers of one binding and the parameters of the
other. -/
theorem enqueueGrid_refusedParams :
    let made : Binding Nat := ⟨0, 7, 1, ⟨1, 1⟩⟩
    let refused : Binding Nat := ⟨2, 9, 1, ⟨2, 1⟩⟩
    let bound := (threeBuffers.buildUnless none .int32Add).1.bind 0 made
    let next := bound.1.bind 0 refused
    bound.2 = .ok () ∧ next.2 = .error (.submission driverText) ∧
      ∃ dispatch,
        next.1.enqueueGrid 0 ⟨1, 1⟩ = .ok ({ next.1 with dispatches := [dispatch] }, .ok ()) ∧
        dispatch.bound = (made.input, made.result) ∧ dispatch.params = .of refused ∧
        dispatch.params ≠ .of made := by
  intro made refused bound next
  exact ⟨rfl, rfl, _, rfl, rfl, rfl, by decide⟩

end AddRate.Gpu
