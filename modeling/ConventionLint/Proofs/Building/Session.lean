import ConventionLint.Proofs.Building.Operations

/-!
Programs built call by call, with any number of files in the making.

A session is a program and the builders of its files. Calls to them may come in any order; a builder
whose file has been added to the program takes no more calls. The record of the calls and of what
they were answered tells what the finished program holds: every reference that was answered resolves
to what its call described, whatever came between and afterwards.
-/
namespace ConventionLint.Building

inductive Declaration where
  | given (decl : TypeDecl)
  | marked (name : String) (attributes : List String)
  | derived (name : String) (base : TypeId) (attributes : List String)
  deriving DecidableEq, Repr

namespace Declaration

def apply (program : Program) : Declaration → TypeId × Program
  | given decl => program.addType decl
  | marked name attributes => program.addMarkedType name attributes
  | derived name base attributes => program.addDerivedType name base attributes

def described : Declaration → TypeDecl
  | given decl => decl
  | marked name attributes => ⟨name, none, .absent, attributes.map fun name => ⟨name, none⟩⟩
  | derived name base attributes => ⟨name, none, base, attributes.map fun name => ⟨name, none⟩⟩

theorem modify_push {α : Type} (entries : Array α) (entry : α) (change : α → α) :
    (entries.push entry).modify entries.size change = entries.push (change entry) := by
  apply Array.ext_getElem?
  intro i
  rw [Array.getElem?_modify, Array.getElem?_push, Array.getElem?_push]
  by_cases last : i = entries.size
  · simp [last]
  · simp [last, Ne.symm last]

/-- A declaration appends one type and leaves the rest of the program alone. The type is the one that
it describes, as long as the reference that is answered points to it. -/
theorem apply_cases (program : Program) (declaration : Declaration) :
    ∃ types, declaration.apply program =
        (Ref.ofPosition program.types.size, { program with types := types }) ∧
      types.size = program.types.size + 1 ∧
      (program.types.size < 4294967296 → types = program.types.push declaration.described) := by
  cases declaration with
  | given decl => exact ⟨_, rfl, by simp, fun _ => rfl⟩
  | marked name attributes => exact ⟨_, rfl, by simp, fun _ => rfl⟩
  | derived name base attributes =>
      refine ⟨_, rfl, by rw [Array.size_modify]; exact Array.size_push _, ?_⟩
      intro bound
      have position : (Ref.ofPosition program.types.size : TypeId).position = program.types.size :=
        Ref.position_ofPosition program.types.size bound
      exact position.symm ▸ modify_push program.types _ _

end Declaration

/-- A builder keeps the file that it has built also when it is closed. -/
inductive Builder where
  | working (file : SourceFile)
  | closed (file : SourceFile)
  deriving DecidableEq, Repr

def Builder.file : Builder → SourceFile
  | working file | closed file => file

structure Session where
  program : Program := {}
  builders : List Builder := []
  deriving DecidableEq, Repr

inductive Call where
  | declare (declaration : Declaration)
  | property (containingType : TypeId) (name : String)
  | newFile (name : String)
  | inFile (slot : Nat) (call : FileCall)
  | addFile (slot : Nat)
  deriving DecidableEq, Repr

namespace Session

def file? (session : Session) (slot : Nat) : Option SourceFile :=
  session.builders[slot]?.map Builder.file

def step (session : Session) : Call → Option (Answer × Session)
  | .declare declaration =>
    let (id, program) := declaration.apply session.program
    some (.type id, { session with program := program })
  | .property containingType name =>
    let (id, program) := session.program.addProperty containingType name
    some (.property id, { session with program := program })
  | .newFile name =>
    let builder := Builder.working { name := name }
    some (.file session.builders.length, { session with builders := session.builders ++ [builder] })
  | .inFile slot call =>
    match session.builders[slot]? with
    | some (.working file) =>
      let (answer, file) := call.perform file
      some (answer, { session with builders := session.builders.set slot (.working file) })
    | _ => none
  | .addFile slot =>
    match session.builders[slot]? with
    | some (.working file) =>
      some (.done, ⟨session.program.addFile file, session.builders.set slot (.closed file)⟩)
    | _ => none

theorem step_cases {session next : Session} {call : Call} {answer : Answer}
    (taken : session.step call = some (answer, next)) :
    (∃ declaration types, call = .declare declaration ∧
      answer = .type (Ref.ofPosition session.program.types.size) ∧
      types.size = session.program.types.size + 1 ∧
      (session.program.types.size < 4294967296 →
        types = session.program.types.push declaration.described) ∧
      next = { session with program := { session.program with types := types } }) ∨
    (∃ containingType name, call = .property containingType name ∧
      answer = .property (Ref.ofPosition session.program.properties.size) ∧
      next = { session with program := { session.program with
        properties := session.program.properties.push ⟨name, containingType⟩ } }) ∨
    (∃ name, call = .newFile name ∧ answer = .file session.builders.length ∧
      next = { session with builders := session.builders ++ [.working { name := name }] }) ∨
    (∃ slot fileCall file, call = .inFile slot fileCall ∧
      session.builders[slot]? = some (.working file) ∧ answer = (fileCall.perform file).1 ∧
      next = { session with
        builders := session.builders.set slot (.working (fileCall.perform file).2) }) ∨
    (∃ slot file, call = .addFile slot ∧ session.builders[slot]? = some (.working file) ∧
      answer = .done ∧
      next = ⟨session.program.addFile file, session.builders.set slot (.closed file)⟩) := by
  cases call with
  | declare declaration =>
      obtain ⟨types, applied, size, pushed⟩ := declaration.apply_cases session.program
      simp only [step, applied, Option.some.injEq, Prod.mk.injEq] at taken
      exact Or.inl ⟨declaration, types, rfl, taken.1.symm, size, pushed, taken.2.symm⟩
  | property containingType name =>
      cases taken
      exact Or.inr (Or.inl ⟨containingType, name, rfl, rfl, rfl⟩)
  | newFile name =>
      cases taken
      exact Or.inr (Or.inr (Or.inl ⟨name, rfl, rfl, rfl⟩))
  | inFile slot fileCall =>
      simp only [step] at taken
      split at taken
      · next file found =>
          cases taken
          exact Or.inr (Or.inr (Or.inr (Or.inl ⟨slot, fileCall, file, rfl, found, rfl, rfl⟩)))
      · cases taken
  | addFile slot =>
      simp only [step] at taken
      split at taken
      · next file found =>
          cases taken
          exact Or.inr (Or.inr (Or.inr (Or.inr ⟨slot, file, rfl, found, rfl, rfl⟩)))
      · cases taken

structure Fits (session : Session) : Prop where
  types : session.program.types.size ≤ 4294967295
  properties : session.program.properties.size ≤ 4294967295
  operations : ∀ builder ∈ session.builders, builder.file.operations.size ≤ 4294967295

end Session

structure Record where
  session : Session := {}
  log : List (Call × Answer) := []
  deriving DecidableEq, Repr

namespace Record

def call (record : Record) (call : Call) : Record :=
  match record.session.step call with
  | none => record
  | some (answer, session) => ⟨session, record.log ++ [(call, answer)]⟩

def run (calls : List Call) : Record := calls.foldl call {}

theorem run_preserves (kept : Record → Prop) (start : kept {})
    (step : ∀ session log call answer next, kept ⟨session, log⟩ →
      session.step call = some (answer, next) → kept ⟨next, log ++ [(call, answer)]⟩)
    (calls : List Call) : kept (run calls) := by
  apply List.foldlRecOn calls call start
  intro record holds made _
  cases taken : record.session.step made with
  | none => simpa only [call, taken] using holds
  | some outcome =>
      have later := step record.session record.log made outcome.1 outcome.2 holds taken
      simpa only [call, taken] using later

theorem log_prefix (earlier later : List Call) : (run earlier).log <+: (run (earlier ++ later)).log := by
  rw [run, run, List.foldl_append]
  refine List.foldlRecOn (motive := fun record => (run earlier).log <+: record.log) later call
    (List.prefix_refl _) ?_
  intro record holds made _
  cases taken : record.session.step made with
  | none => simpa only [call, taken] using holds
  | some outcome =>
      have longer := holds.trans (List.prefix_append record.log [(made, outcome.1)])
      simpa only [call, taken] using longer

end Record

def declaredType : Call × Answer → Option (TypeId × TypeDecl)
  | (.declare declaration, .type id) => some (id, declaration.described)
  | _ => none

def declaredProperty : Call × Answer → Option (PropertyId × PropertyDecl)
  | (.property containingType name, .property id) => some (id, ⟨name, containingType⟩)
  | _ => none

def sentTo (slot : Nat) : Call × Answer → Option (FileCall × Answer)
  | (.inFile other call, answer) => if other = slot then some (call, answer) else none
  | _ => none

def addedSlot : Call × Answer → Option Nat
  | (.addFile slot, .done) => some slot
  | _ => none

theorem filterMap_concat_none {α β : Type} {f : α → Option β} {log : List α} {entry : α}
    (silent : f entry = none) : (log ++ [entry]).filterMap f = log.filterMap f := by
  rw [List.filterMap_append, List.filterMap_cons_none silent]
  exact List.append_nil _

theorem filterMap_concat_some {α β : Type} {f : α → Option β} {log : List α} {entry : α} {value : β}
    (found : f entry = some value) : (log ++ [entry]).filterMap f = log.filterMap f ++ [value] := by
  rw [List.filterMap_append, List.filterMap_cons_some found]
  rfl

structure Declares (log : List (Call × Answer)) (program : Program) : Prop where
  count : (log.filterMap declaredType).length = program.types.size
  types : program.types.size ≤ 4294967295 → log.filterMap declaredType = Ref.numbered program.types
  properties : log.filterMap declaredProperty = Ref.numbered program.properties

theorem Declares.other {log : List (Call × Answer)} {program next : Program}
    (declares : Declares log program) (entry : Call × Answer) (noType : declaredType entry = none)
    (noProperty : declaredProperty entry = none) (types : next.types = program.types)
    (properties : next.properties = program.properties) : Declares (log ++ [entry]) next where
  count := by rw [filterMap_concat_none noType, types, declares.count]
  types := by
    rw [filterMap_concat_none noType, types]
    exact declares.types
  properties := by rw [filterMap_concat_none noProperty, properties, declares.properties]

theorem Declares.step {log : List (Call × Answer)} {session next : Session} {call : Call}
    {answer : Answer} (declares : Declares log session.program)
    (taken : session.step call = some (answer, next)) :
    Declares (log ++ [(call, answer)]) next.program := by
  rcases Session.step_cases taken with ⟨declaration, types, rfl, rfl, size, pushed, rfl⟩ |
    ⟨containingType, name, rfl, rfl, rfl⟩ | ⟨name, rfl, rfl, rfl⟩ |
    ⟨slot, fileCall, file, rfl, _, rfl, rfl⟩ | ⟨slot, file, rfl, _, rfl, rfl⟩
  · constructor
    · rw [filterMap_concat_some (by rfl), List.length_append, declares.count]
      exact size.symm
    · intro bound
      have small : types.size ≤ 4294967295 := bound
      have grown : types = session.program.types.push declaration.described := pushed (by omega)
      subst grown
      rw [filterMap_concat_some (by rfl), declares.types (by omega), Ref.numbered_push]
    · rw [filterMap_concat_none (by rfl), declares.properties]
  · constructor
    · rw [filterMap_concat_none (by rfl), declares.count]
    · intro bound
      rw [filterMap_concat_none (by rfl), declares.types bound]
    · rw [filterMap_concat_some (by rfl), declares.properties, Ref.numbered_push]
  · exact declares.other _ rfl rfl rfl rfl
  · exact declares.other _ rfl rfl rfl rfl
  · exact declares.other _ rfl rfl rfl rfl

/-- What the record tells about the files. A slot that no builder has yet counts as an empty file. -/
structure Tracks (log : List (Call × Answer)) (session : Session) : Prop where
  files : ∀ slot, FileCall.Traces (log.filterMap (sentTo slot))
    ((session.file? slot).getD { name := "" })
  opened : ∀ slot name, (Call.newFile name, Answer.file slot) ∈ log →
    ∃ file, session.file? slot = some file ∧ file.name = name
  closed : ∀ slot ∈ log.filterMap addedSlot, ∃ file, session.builders[slot]? = some (.closed file)
  added : session.program.files.map some = (log.filterMap addedSlot).map session.file?

theorem Session.file?_set {session next : Session} {slot : Nat} {builder old : Builder}
    (found : session.builders[slot]? = some old)
    (replaced : next.builders = session.builders.set slot builder) (other : Nat) :
    next.file? other = if slot = other then some builder.file else session.file? other := by
  have inside := (List.getElem?_eq_some_iff.mp found).1
  rw [file?, replaced, List.getElem?_set]
  by_cases same : slot = other
  · subst same
    simp [inside]
  · simp [same, file?]

theorem Session.file?_newFile (session : Session) (name : String) (slot : Nat) :
    file? { session with builders := session.builders ++ [.working { name := name }] } slot =
      if slot = session.builders.length then some { name := name } else session.file? slot := by
  rw [file?]
  by_cases last : slot = session.builders.length
  · simp [last, Builder.file]
  · rcases Nat.lt_or_ge slot session.builders.length with inside | outside
    · simp [last, List.getElem?_append_left inside, file?]
    · have beyond : (session.builders ++ [Builder.working { name := name }]).length ≤ slot := by
        rw [List.length_append, List.length_singleton]
        omega
      rw [if_neg last, file?, List.getElem?_eq_none beyond, List.getElem?_eq_none outside]

theorem Session.lt_of_file? {session : Session} {slot : Nat} {file : SourceFile}
    (found : session.file? slot = some file) : slot < session.builders.length := by
  obtain ⟨builder, present, _⟩ := Option.map_eq_some_iff.mp found
  exact (List.getElem?_eq_some_iff.mp present).1

theorem Tracks.map_file? {log : List (Call × Answer)} {session next : Session}
    (tracks : Tracks log session)
    (kept : ∀ slot file, session.builders[slot]? = some (.closed file) →
      next.file? slot = session.file? slot) :
    (log.filterMap addedSlot).map next.file? = session.program.files.map some := by
  rw [tracks.added]
  apply List.map_congr_left
  intro slot member
  obtain ⟨file, found⟩ := tracks.closed slot member
  exact kept slot file found

theorem Tracks.other {log : List (Call × Answer)} {session next : Session}
    (tracks : Tracks log session) (entry : Call × Answer) (unsent : ∀ slot, sentTo slot entry = none)
    (unopened : ∀ slot name, (Call.newFile name, Answer.file slot) ≠ entry)
    (unadded : addedSlot entry = none) (builders : next.builders = session.builders)
    (files : next.program.files = session.program.files) : Tracks (log ++ [entry]) next := by
  have same : next.file? = session.file? := by
    funext slot
    rw [Session.file?, builders, Session.file?]
  constructor
  · intro slot
    rw [filterMap_concat_none (unsent slot), same]
    exact tracks.files slot
  · intro slot name member
    rw [same]
    rcases List.mem_append.mp member with old | new
    · exact tracks.opened slot name old
    · exact absurd (List.mem_singleton.mp new) (unopened slot name)
  · rw [filterMap_concat_none unadded, builders]
    exact tracks.closed
  · rw [filterMap_concat_none unadded, same, files]
    exact tracks.added

theorem Tracks.newFile {log : List (Call × Answer)} {session : Session} (tracks : Tracks log session)
    (name : String) :
    Tracks (log ++ [(.newFile name, .file session.builders.length)])
      { session with builders := session.builders ++ [.working { name := name }] } := by
  constructor
  · intro slot
    rw [filterMap_concat_none (by rfl), session.file?_newFile]
    have old := tracks.files slot
    by_cases last : slot = session.builders.length
    · have fresh : session.file? slot = none := by simp [Session.file?, last]
      rw [fresh] at old
      rw [if_pos last]
      exact ⟨old.operations, old.roots⟩
    · rw [if_neg last]
      exact old
  · intro slot other member
    rcases List.mem_append.mp member with old | new
    · obtain ⟨file, found, named⟩ := tracks.opened slot other old
      have inside := Session.lt_of_file? found
      exact ⟨file, by rw [session.file?_newFile, if_neg (by omega), found], named⟩
    · cases List.mem_singleton.mp new
      exact ⟨{ name := name }, by rw [session.file?_newFile, if_pos rfl], rfl⟩
  · intro slot member
    rw [filterMap_concat_none (by rfl)] at member
    obtain ⟨file, found⟩ := tracks.closed slot member
    have inside := (List.getElem?_eq_some_iff.mp found).1
    exact ⟨file, by rw [List.getElem?_append_left inside, found]⟩
  · rw [filterMap_concat_none (by rfl)]
    refine (tracks.map_file? ?_).symm
    intro slot file found
    have inside := (List.getElem?_eq_some_iff.mp found).1
    rw [session.file?_newFile, if_neg (by omega)]

theorem Tracks.inFile {log : List (Call × Answer)} {session : Session} (tracks : Tracks log session)
    (slot : Nat) (call : FileCall) (file : SourceFile)
    (found : session.builders[slot]? = some (.working file)) :
    Tracks (log ++ [(.inFile slot call, (call.perform file).1)])
      { session with builders := session.builders.set slot (.working (call.perform file).2) } := by
  have current : session.file? slot = some file := by rw [Session.file?, found]; rfl
  have apart : ∀ other known, session.builders[other]? = some (.closed known) → slot ≠ other := by
    rintro other known present rfl
    rw [found] at present
    cases present
  constructor
  · intro other
    rw [Session.file?_set found rfl]
    have old := tracks.files other
    by_cases same : slot = other
    · subst same
      rw [current] at old
      rw [filterMap_concat_some (by exact if_pos rfl), if_pos rfl]
      exact old.perform call
    · rw [filterMap_concat_none (by exact if_neg same), if_neg same]
      exact old
  · intro other name member
    rw [Session.file?_set found rfl]
    rcases List.mem_append.mp member with old | new
    · obtain ⟨known, present, named⟩ := tracks.opened other name old
      by_cases same : slot = other
      · subst same
        rw [current] at present
        cases present
        exact ⟨_, if_pos rfl, (call.name_perform file).trans named⟩
      · exact ⟨known, by rw [if_neg same, present], named⟩
    · cases List.mem_singleton.mp new
  · intro other member
    rw [filterMap_concat_none (by rfl)] at member
    obtain ⟨known, present⟩ := tracks.closed other member
    exact ⟨known, by rw [List.getElem?_set_ne (apart other known present), present]⟩
  · rw [filterMap_concat_none (by rfl)]
    refine (tracks.map_file? ?_).symm
    intro other known present
    rw [Session.file?_set found rfl, if_neg (apart other known present)]

theorem Tracks.addFile {log : List (Call × Answer)} {session : Session} (tracks : Tracks log session)
    (slot : Nat) (file : SourceFile) (found : session.builders[slot]? = some (.working file)) :
    Tracks (log ++ [(.addFile slot, .done)])
      ⟨session.program.addFile file, session.builders.set slot (.closed file)⟩ := by
  have inside := (List.getElem?_eq_some_iff.mp found).1
  have current : session.file? slot = some file := by rw [Session.file?, found]; rfl
  -- The file is now closed, but it is the same file.
  have same : Session.file? ⟨session.program.addFile file, session.builders.set slot (.closed file)⟩ =
      session.file? := by
    funext other
    rw [Session.file?_set found rfl]
    split
    · next equal => rw [← equal, current]; rfl
    · rfl
  constructor
  · intro other
    rw [filterMap_concat_none (by rfl), same]
    exact tracks.files other
  · intro other name member
    rw [same]
    rcases List.mem_append.mp member with old | new
    · exact tracks.opened other name old
    · cases List.mem_singleton.mp new
  · intro other member
    rw [filterMap_concat_some (by rfl)] at member
    by_cases equal : slot = other
    · subst equal
      exact ⟨file, List.getElem?_set_self inside⟩
    · rcases List.mem_append.mp member with old | new
      · obtain ⟨known, present⟩ := tracks.closed other old
        exact ⟨known, by rw [List.getElem?_set_ne equal, present]⟩
      · exact absurd (List.mem_singleton.mp new).symm equal
  · rw [filterMap_concat_some (by rfl), same, Program.addFile, List.map_append, List.map_append,
      tracks.added]
    exact congrArg (_ ++ [·]) current.symm

theorem Tracks.step {log : List (Call × Answer)} {session next : Session} {call : Call}
    {answer : Answer} (tracks : Tracks log session)
    (taken : session.step call = some (answer, next)) : Tracks (log ++ [(call, answer)]) next := by
  rcases Session.step_cases taken with ⟨declaration, types, rfl, rfl, _, _, rfl⟩ |
    ⟨containingType, name, rfl, rfl, rfl⟩ | ⟨name, rfl, rfl, rfl⟩ |
    ⟨slot, fileCall, file, rfl, found, rfl, rfl⟩ | ⟨slot, file, rfl, found, rfl, rfl⟩
  · exact tracks.other _ (fun _ => rfl) (by simp) rfl rfl rfl
  · exact tracks.other _ (fun _ => rfl) (by simp) rfl rfl rfl
  · exact tracks.newFile name
  · exact tracks.inFile slot fileCall file found
  · exact tracks.addFile slot file found

namespace Record

theorem run_declares (calls : List Call) : Declares (run calls).log (run calls).session.program := by
  apply run_preserves fun record => Declares record.log record.session.program
  · exact ⟨rfl, fun _ => rfl, rfl⟩
  · intro session log call answer next holds taken
    exact holds.step taken

theorem run_tracks (calls : List Call) : Tracks (run calls).log (run calls).session := by
  apply run_preserves fun record => Tracks record.log record.session
  · exact ⟨fun _ => FileCall.traces_empty "", by simp, by simp, rfl⟩
  · intro session log call answer next holds taken
    exact holds.step taken

end Record

theorem Session.Fits.file {session : Session} (fits : session.Fits) {slot : Nat} {file : SourceFile}
    (found : session.file? slot = some file) : file.operations.size ≤ 4294967295 := by
  obtain ⟨builder, present, rfl⟩ := Option.map_eq_some_iff.mp found
  exact fits.operations builder (List.mem_of_getElem? present)

/-- What resolves in a session resolves to the same in a later one. -/
structure Session.Keeps (session later : Session) : Prop where
  types : ∀ id decl, session.program.type? id = some decl → later.program.type? id = some decl
  properties : ∀ id decl, session.program.property? id = some decl →
    later.program.property? id = some decl
  operations : ∀ slot before after, session.file? slot = some before →
    later.file? slot = some after → ∀ id operation, before.get? id = some operation →
      after.get? id = some operation

theorem resolve_of_prefix {arena : Arena} {α : Type} {entries later : Array α}
    (longer : (Ref.numbered entries : List (Ref arena × α)) <+: Ref.numbered later)
    (bound : later.size ≤ 4294967295) (ref : Ref arena) (entry : α)
    (resolved : ref.resolve? entries = some entry) : ref.resolve? later = some entry := by
  have smaller : entries.size ≤ later.size := by
    simpa only [Ref.length_numbered] using longer.length_le
  have member := (Ref.mem_numbered entries (by omega) ref entry).mpr resolved
  exact (Ref.mem_numbered later bound ref entry).mp (longer.subset member)

namespace Record

theorem keeps_run (earlier later : List Call) (fits : (run (earlier ++ later)).session.Fits) :
    (run earlier).session.Keeps (run (earlier ++ later)).session := by
  have longer := log_prefix earlier later
  have declares := run_declares earlier
  have declaresToo := run_declares (earlier ++ later)
  constructor
  · have count : (run earlier).session.program.types.size ≤ 4294967295 := by
      have lengths := (longer.filterMap declaredType).length_le
      rw [declares.count, declaresToo.count] at lengths
      exact lengths.trans fits.types
    have types := longer.filterMap declaredType
    rw [declares.types count, declaresToo.types fits.types] at types
    exact resolve_of_prefix types fits.types
  · have properties := longer.filterMap declaredProperty
    rw [declares.properties, declaresToo.properties] at properties
    exact resolve_of_prefix properties fits.properties
  · intro slot before after found foundToo
    have traces := (run_tracks earlier).files slot
    have tracesToo := (run_tracks (earlier ++ later)).files slot
    rw [found] at traces
    rw [foundToo] at tracesToo
    have operations := (longer.filterMap (sentTo slot)).filterMap FileCall.added
    rw [traces.operations, tracesToo.operations] at operations
    exact resolve_of_prefix operations (fits.file foundToo)

end Record

/-- A file is the one that the calls to its builder describe. -/
structure BuiltBy (log : List (FileCall × Answer)) (file : SourceFile) : Prop where
  operations : HandedOut (log.filterMap FileCall.added) file.operations
  roots : file.roots = log.filterMap FileCall.rooted
  covered : FileCall.RefersBack log → file.walk.Perm (log.filterMap FileCall.added)

/-- Whatever calls are made, in whatever order: every reference that is answered is the next of its
arena and resolves, in the finished program or in the file of its own builder, to what the call
described, and no later call changes that. The roots of a file are those that the calls to its builder
named. If these calls refer to nothing but what their builder had answered before, the walk visits
each operation once. -/
theorem run_builds (calls : List Call) (fits : (Record.run calls).session.Fits) :
    HandedOut ((Record.run calls).log.filterMap declaredType)
      (Record.run calls).session.program.types ∧
    HandedOut ((Record.run calls).log.filterMap declaredProperty)
      (Record.run calls).session.program.properties ∧
    (∀ slot name, (Call.newFile name, Answer.file slot) ∈ (Record.run calls).log →
      ∃ file, (Record.run calls).session.file? slot = some file ∧ file.name = name ∧
        BuiltBy ((Record.run calls).log.filterMap (sentTo slot)) file) ∧
    (Record.run calls).session.program.files.map some =
      ((Record.run calls).log.filterMap addedSlot).map (Record.run calls).session.file? ∧
    ∀ earlier later, calls = earlier ++ later →
      (Record.run earlier).session.Keeps (Record.run calls).session := by
  have declares := Record.run_declares calls
  have tracks := Record.run_tracks calls
  refine ⟨?_, ?_, ?_, tracks.added, ?_⟩
  · rw [declares.types fits.types]
    exact handedOut_numbered _ fits.types
  · rw [declares.properties]
    exact handedOut_numbered _ fits.properties
  · intro slot name opened
    obtain ⟨file, found, named⟩ := tracks.opened slot name opened
    have traces := tracks.files slot
    rw [found] at traces
    have bound := fits.file found
    exact ⟨file, found, named, traces.handedOut bound, traces.roots.symm, traces.walk_perm bound⟩
  · rintro earlier later rfl
    exact Record.keeps_run earlier later fits

def interleaved : List Call :=
  [.declare (.marked "Base" ["ImmutableByConventionAttribute"]),
    .newFile "first",
    .inFile 0 (.add (.localReference ⟨0, 1⟩)),
    .newFile "second",
    .declare (.derived "Point" ⟨0⟩ []),
    .inFile 1 (.add (.literal ⟨0, 1⟩)),
    .property ⟨1⟩ "X",
    .inFile 0 (.add (.memberAccess ⟨0⟩ ⟨0⟩ ⟨0, 3⟩)),
    .inFile 1 (.add (.propertyReference ⟨0⟩ .absent .identifierName ⟨2, 3⟩)),
    .inFile 0 (.addRoot .absent),
    .addFile 1,
    .inFile 0 (.add (.literal ⟨6, 7⟩)),
    .inFile 1 (.add (.literal ⟨4, 5⟩)),
    .inFile 0 (.add (.assignment ⟨1⟩ ⟨2⟩ ⟨0, 7⟩)),
    .inFile 0 (.add (.statement ⟨3⟩ ⟨0, 8⟩)),
    .inFile 0 (.addRoot ⟨2⟩),
    .addFile 0]

theorem interleaved_builds :
    (Record.run interleaved).session.Fits ∧
    (Record.run interleaved).session.program.type? ⟨1⟩ = some ⟨"Point", none, ⟨0⟩, []⟩ ∧
    (Record.run interleaved).session.program.files.map some =
      [(Record.run interleaved).session.file? 1, (Record.run interleaved).session.file? 0] ∧
    ∃ file, (Record.run interleaved).session.file? 0 = some file ∧
      file.roots = [.absent, ⟨4⟩, ⟨2⟩] ∧ (file.walk.map Prod.fst).Perm [⟨0⟩, ⟨1⟩, ⟨2⟩, ⟨3⟩, ⟨4⟩] := by
  have fits : (Record.run interleaved).session.Fits := ⟨by decide, by decide, by decide⟩
  obtain ⟨types, _, files, added, _⟩ := run_builds interleaved fits
  obtain ⟨file, found, _, built⟩ := files 0 "first" (by decide)
  refine ⟨fits, (types.resolved _ _).mp (by decide), added, file, found, built.roots, ?_⟩
  exact (built.covered (by decide)).map Prod.fst

end ConventionLint.Building
