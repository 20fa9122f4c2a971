import LittleMan.Proofs.Machine.Run

/-!
# What a request can do

A request that executes no instruction has one effect on the machine, or none. `handle_cases` lists
the effects, with the check that was passed for each of them, and says whether the request was
refused. A refused request leaves the machine alone, except that a write keeps the calls that were
made before its veto. What a request does to a part of the machine is a case distinction on the
list.
-/

namespace LittleMan

namespace Machine

/-- The request executes instructions. -/
def Request.isExecution : Request → Bool
  | .step | .run _ => true
  | _ => false

/-- The request only asks for something. -/
def Request.isQuery : Request → Bool
  | .display | .flags | .showTrace | .read _ | .size | .snapshot | .dump | .inputSize
  | .lastOutput | .outputSize => true
  | _ => false

/-- Everything that a request can do that executes nothing: the machine afterwards, and whether the
request was carried out. -/
inductive HandleCases (m : Machine) : Request → Machine → Bool → Prop where
  /-- The request is refused. -/
  | refused (request : Request) : HandleCases m request m false
  /-- A write is refused. -/
  | unwritten (a value : Int) (calls : List Sighting) (cause : Fault.Cause)
      (write : m.memory.write a value = (calls, .error cause)) :
      HandleCases m (.write a value) { m with sightings := m.sightings ++ calls } false
  /-- Something is told. -/
  | told (request : Request) (query : request.isQuery = true) : HandleCases m request m true
  | load (image : List Datum) (memory : Memory) (load : m.memory.load image = .ok memory) :
      HandleCases m (.load image)
        ({ m with memory, registers := {} }.note (.loadedImage image.length)) true
  | loadText (text : Text) (memory : Memory) (load : loadWords m.memory text = .ok memory) :
      HandleCases m (.loadText text) ({ m with memory, registers := {} }.note .loadedText) true
  | inject (inputs : List Datum) (input : InputTray)
      (inject : m.input.inject inputs = .ok input) :
      HandleCases m (.inject inputs) { m with input } true
  | reset : HandleCases m .reset m.reset true
  | resetRegisters : HandleCases m .resetRegisters m.resetRegisters true
  | assign (a : Assignment) :
      HandleCases m (.assign a) { m with registers := a.apply m.registers } true
  | setTracing (on : Bool) : HandleCases m (.setTracing on) { m with tracing := on } true
  | clearTrace : HandleCases m .clearTrace { m with trace := #[] } true
  | written (a value : Int) (calls : List Sighting) (memory : Memory)
      (write : m.memory.write a value = (calls, .ok memory)) :
      HandleCases m (.write a value) { m with memory, sightings := m.sightings ++ calls } true
  | loadMemory (image : List Datum) (memory : Memory) (load : m.memory.load image = .ok memory) :
      HandleCases m (.loadMemory image) { m with memory } true
  | loadMemoryText (text : Text) (memory : Memory)
      (load : loadWords m.memory text = .ok memory) :
      HandleCases m (.loadMemoryText text) { m with memory } true
  | clearMemory : HandleCases m .clearMemory { m with memory := m.memory.clear } true
  | watch (a : Int) (w : Watcher) (memory : Memory) (watch : m.memory.watch a w = .ok memory) :
      HandleCases m (.watch a w) { m with memory } true
  | unwatch (a : Int) (name : Option Text) :
      HandleCases m (.unwatch a name) { m with memory := m.memory.unwatch a name } true
  | popInput (value : Int) (input : InputTray) (pop : m.input.pop = .ok (value, input)) :
      HandleCases m .popInput { m with input } true
  | clearInput : HandleCases m .clearInput { m with input := {} } true
  | pushOutput (value : Int) :
      HandleCases m (.pushOutput value) { m with output := m.output.push value } true
  | clearOutput : HandleCases m .clearOutput { m with output := {} } true

section

variable (m : Machine) {request : Request}

/-- A request that replaces the machine or is refused does one of the things on the list if the
replacement does. -/
lemma handleCases_orRefuse {outcome : Except Fault Machine}
    (hok : ∀ after, outcome = .ok after → HandleCases m request after true) :
    HandleCases m request (m.orRefuse outcome).1 (m.orRefuse outcome).2.isOk := by
  cases outcome with
  | ok after => exact hok after rfl
  | error f => exact .refused request

/-- So does a request that replaces the memory or is refused. -/
lemma handleCases_withMemory {outcome : Except Fault.Cause Memory}
    (hok : ∀ memory, outcome = .ok memory → HandleCases m request { m with memory } true) :
    HandleCases m request (m.withMemory outcome).1 (m.withMemory outcome).2.isOk := by
  cases outcome with
  | ok memory => exact hok memory rfl
  | error cause => exact .refused request

/-- What a request does that executes nothing is one of the cases. -/
theorem handle_cases (h : request.isExecution = false) :
    HandleCases m request (m.handle request).1 (m.handle request).2.isOk := by
  cases request with
  | step => cases h
  | run budget => cases h
  | load image =>
    refine handleCases_orRefuse m fun after hafter => ?_
    obtain ⟨memory, hload, rfl⟩ := (m.load_eq_ok_iff after image).mp hafter
    exact .load image memory hload
  | loadText text =>
    refine handleCases_orRefuse m fun after hafter => ?_
    obtain ⟨memory, hload, rfl⟩ := (m.loadText_eq_ok_iff after text).mp hafter
    exact .loadText text memory hload
  | inject inputs =>
    refine handleCases_orRefuse m fun after hafter => ?_
    obtain ⟨input, hinject, rfl⟩ := (m.inject_eq_ok_iff after inputs).mp hafter
    exact .inject inputs input hinject
  | loadMemory image => exact handleCases_withMemory m (.loadMemory image)
  | loadMemoryText text => exact handleCases_withMemory m (.loadMemoryText text)
  | watch a w => exact handleCases_withMemory m (.watch a w)
  | write a value =>
    rw [handle_write]
    rcases hwrite : m.memory.write a value with ⟨calls, cause | memory⟩
    · exact .unwritten a value calls cause hwrite
    · exact .written a value calls memory hwrite
  | read a =>
    unfold handle
    dsimp only
    split
    · exact .told _ rfl
    · exact .refused _
  | display =>
    unfold handle
    dsimp only
    cases m.registers.written with
    | ok t => exact .told _ rfl
    | error o => exact .refused _
  | popInput =>
    unfold handle
    dsimp only
    split
    · next value input hpop => exact .popInput value input hpop
    · exact .refused _
  | reset => exact .reset
  | resetRegisters => exact .resetRegisters
  | assign a => exact .assign a
  | setTracing on => exact .setTracing on
  | clearTrace => exact .clearTrace
  | clearMemory => exact .clearMemory
  | unwatch a name => exact .unwatch a name
  | clearInput => exact .clearInput
  | pushOutput value => exact .pushOutput value
  | clearOutput => exact .clearOutput
  | _ => exact .told _ rfl

end

end Machine

end LittleMan
