import NodeBus.Proofs.FilePlaces
import NodeBus.Startup

/-!
# Pid files

Daemons take pid files and give them up, in any order and at any paths, and nobody else touches the files
(`Daemons.run`). What stood there before they came stays as it was; wherever nothing stood, there is a file exactly
while a daemon holds it, or after one was stranded there (`Daemons.exclusive_run`): made, but not written, or given up,
but not removed. A stranded file is in the way of every daemon from then on (`Daemons.refused_once_stranded`).
-/
namespace NodeBus

/-! ### Taking a pid file -/

namespace PidFile

/-- The file of a process that holds a pid file. -/
def entry (pid : Nat) : FileEntry := { kind := .file (contents pid), mode := Host.fileMode }

/-- The ways taking a pid file can go. -/
inductive Creates (host : Host) (pid : Nat) (path : String) : Except StartupError PidFile → Host → Prop
  | refused (error : StartupError) (after : Host) (unopened : (host.createNew path).1 ≠ .ok ())
      (same : after.files = host.files) : Creates host pid path (.error error) after
  /-- The file is made, and the pid can not be written to it. -/
  | unwritten (error : SystemError) (place : Location) (after : Host) (opens : (host.createNew path).1 = .ok ())
      (refused : ¬ (host.createNew path).2.CarriesOut) (leads : host.files.place? path = some place)
      (free : host.files.hasEntry place = false) (put : after.files = host.files.put place (some Host.emptyFile)) :
      Creates host pid path (.error (.pidFile path error)) after
  | done (place : Location) (after : Host) (opens : (host.createNew path).1 = .ok ())
      (written : (host.createNew path).2.CarriesOut) (leads : host.files.place? path = some place)
      (free : host.files.hasEntry place = false) (put : after.files = host.files.put place (some (entry pid))) :
      Creates host pid path (.ok { path }) after

theorem creates (host : Host) (pid : Nat) (path : String) :
    Creates host pid path (create host pid path).1 (create host pid path).2 := by
  unfold create
  rcases opens : host.createNew path with ⟨error | _, opened⟩
  · have same : opened.files = host.files := by rw [Host.call_eq_error opens, Host.spent_files]
    have failed : (host.createNew path).1 ≠ .ok () := by simp [opens]
    cases error <;> exact .refused _ opened failed same
  · have succeeded : (host.createNew path).1 = .ok () := by rw [opens]
    obtain ⟨place, leads, free, made⟩ := Host.createNew_eq_ok opens
    have openedFiles : opened.files = host.files.put place (some Host.emptyFile) := by simp [made]
    by_cases carriedOut : opened.CarriesOut
    · have plain : host.files.isDirectory place = false := Files.isDirectory_of_free free
      have directories : host.files.SameDirectories opened.files := by
        rw [openedFiles]
        exact Files.sameDirectories_put plain (by simp [Host.emptyFile])
      have there : opened.files.entry? place = some { kind := .file [], mode := Host.fileMode } := by
        simp [openedFiles, Host.emptyFile]
      have writes : opened.write path (contents pid) = (.ok (), opened.spent.put place (some (entry pid))) :=
        Host.write_of_file carriedOut (by rw [← Files.place?_congr directories, leads])
          (by rw [← directories.isDirectory, plain]) there
      simp only [writes]
      exact .done place _ succeeded (by rwa [opens]) leads free (by simp [made])
    · rcases writes : opened.write path (contents pid) with ⟨error | _, after⟩
      · simp only [writes]
        exact .unwritten error place after succeeded (by rwa [opens]) leads free
          (by rw [Host.call_eq_error writes, Host.spent_files, openedFiles])
      · exact absurd (Host.carriesOut_of_call_eq_ok writes) carriedOut

/-- Where something stands already, no pid file is taken. -/
theorem create_of_taken {host : Host} {path : String} {place : Location} (pid : Nat) (carriedOut : host.CarriesOut)
    (leads : host.files.place? path = some place) (taken : host.files.hasEntry place = true) :
    create host pid path = (.error (.pidFileExists path), host.spent) := by
  simp only [create, Host.createNew_of_leads carriedOut leads, if_pos taken]

/-- Taking a pid file failed, and this is left of it: an empty file where nothing stood, in the way of every pid file
that leads there. -/
structure LeavesEmptyFile (host : Host) (path : String) (after : Host) (place : Location) : Prop where
  leads : host.files.place? path = some place
  free : host.files.hasEntry place = false
  put : after.files = host.files.put place (some Host.emptyFile)
  refuses : ∀ (next : Host) (pid : Nat) (other : String), next.CarriesOut → next.files = after.files →
    next.files.place? other = some place → create next pid other = (.error (.pidFileExists other), next.spent)

/-- A pid file that is made and can not be written is left there. -/
theorem leavesEmptyFile {host after : Host} {pid : Nat} {path : String} {error : StartupError}
    (fails : create host pid path = (.error error, after)) (opens : (host.createNew path).1 = .ok ()) :
    ∃ place, LeavesEmptyFile host path after place := by
  have goes := creates host pid path
  rw [fails] at goes
  cases goes with
  | refused _ _ unopened => exact absurd opens unopened
  | unwritten _ place _ _ _ leads free put =>
    refine ⟨place, leads, free, put, fun next nextPid other carriedOut same nextLeads => ?_⟩
    have there : after.files.entry? place = some Host.emptyFile := by rw [put, Files.put_entry?, if_pos rfl]
    have taken : next.files.hasEntry place = true := Files.hasEntry_of_entry (by simp [same, there])
    exact create_of_taken nextPid carriedOut nextLeads taken

/-- **A pid file that can not be taken leaves the files as they were exactly if it can not be made.** -/
theorem files_of_create_error_iff {host after : Host} {pid : Nat} {path : String} {error : StartupError}
    (fails : create host pid path = (.error error, after)) :
    after.files = host.files ↔ (host.createNew path).1 ≠ .ok () := by
  constructor
  · intro same opens
    obtain ⟨place, left⟩ := leavesEmptyFile fails opens
    have there : host.files.entry? place = some Host.emptyFile := by
      rw [← same, left.put, Files.put_entry?, if_pos rfl]
    rw [Files.entry?_of_free left.free] at there
    cases there
  · intro unopened
    have goes := creates host pid path
    rw [fails] at goes
    cases goes with
    | refused _ _ _ same => exact same
    | unwritten _ _ _ opens => exact absurd opens unopened

end PidFile

/-! ### Daemons -/

/-- The host, whose next calls go as planned; every call after those is carried out. -/
def Host.facing (host : Host) (plan : List (Option SystemError)) : Host := { host with faults := plan }

@[simp] theorem Host.facing_files (host : Host) (plan : List (Option SystemError)) :
    (host.facing plan).files = host.files := (rfl)

theorem Host.carriesOut_facing (host : Host) : (host.facing []).CarriesOut := rfl

/-- Once a file is made, the next call goes as planned behind that. -/
theorem Host.carriesOut_createNew_iff {host : Host} {path : String} (opens : (host.createNew path).1 = .ok ()) :
    (host.createNew path).2.CarriesOut ↔ host.faults.tail.head?.join = none := by
  rcases opened : host.createNew path with ⟨error | _, after⟩
  · rw [opened] at opens
    cases opens
  · obtain ⟨place, -, -, made⟩ := Host.createNew_eq_ok opened
    rw [made]
    rfl

/-- Where nothing stands, a pid file is taken. -/
theorem PidFile.create_of_free {host : Host} {path : String} {place : Location} (pid : Nat)
    (leads : host.files.place? path = some place) (free : host.files.hasEntry place = false) :
    (create (host.facing []) pid path).1 = .ok { path } := by
  have goes := creates (host.facing []) pid path
  have opens : ((host.facing []).createNew path).1 = .ok () := by
    rw [Host.createNew_of_leads host.carriesOut_facing leads, Host.facing_files, free]
    rfl
  generalize (create (host.facing []) pid path).1 = result at goes
  cases goes with
  | refused _ _ unopened => exact absurd opens unopened
  | unwritten _ _ _ _ refused => exact absurd ((Host.carriesOut_createNew_iff opens).mpr rfl) refused
  | done => rfl

/-- A pid file, and the process that holds it. -/
structure Holding where
  pid : Nat
  file : PidFile
  deriving DecidableEq, Repr

/-- Daemons on one machine: the pid files they hold, and those that nobody holds and that were left behind. -/
structure Daemons where
  host : Host
  held : List Holding := []
  stranded : List PidFile := []

namespace Daemons

/-- What a daemon does. Making the file, writing to it and removing it can each be refused. -/
inductive Act where
  | create (pid : Nat) (path : String) (making writing : Option SystemError)
  | drop (holding : Holding) (removing : Option SystemError)

/-- The file that is left behind when a daemon does this: one that was made and can not be written, or was given up and
can not be removed. -/
def strandedBy (daemons : Daemons) : Act → Option PidFile
  | .create _ path making writing =>
    if ((daemons.host.facing [making, writing]).createNew path).1 = .ok () ∧ writing ≠ none then some { path }
    else none
  | .drop holding removing => if holding ∈ daemons.held ∧ removing ≠ none then some holding.file else none

def act (daemons : Daemons) (act : Act) : Daemons :=
  let stranded := (daemons.strandedBy act).toList ++ daemons.stranded
  match act with
  | .create pid path making writing =>
    match PidFile.create (daemons.host.facing [making, writing]) pid path with
    | (.ok file, host) => { host, held := { pid, file } :: daemons.held, stranded }
    | (.error _, host) => { host, held := daemons.held, stranded }
  | .drop holding removing =>
    if holding ∈ daemons.held then
      { host := PidFile.drop (daemons.host.facing [removing]) holding.file
        held := daemons.held.erase holding
        stranded }
    else daemons

/-- The daemons after what they did, one after the other, none of which held a pid file at first. -/
def run (host : Host) (acts : List Act) : Daemons := acts.foldl act { host }

theorem run_append_cons (host : Host) (before : List Act) (act : Act) (after : List Act) :
    run host (before ++ act :: after) = after.foldl Daemons.act ((run host before).act act) := by
  simp [run]

/-- What the files are while daemons come and go. -/
structure Kept (start : Files) (daemons : Daemons) : Prop where
  directories : start.SameDirectories daemons.host.files
  held : ∀ holding ∈ daemons.held, ∃ place, start.place? holding.file.path = some place ∧
    start.hasEntry place = false ∧ daemons.host.files.entry? place = some (PidFile.entry holding.pid)
  apart : (daemons.held.map fun holding => start.place? holding.file.path).Nodup
  stranded : ∀ file ∈ daemons.stranded, ∃ place, start.place? file.path = some place ∧
    start.hasEntry place = false ∧ daemons.host.files.entry? place ≠ none ∧
      ∀ holding ∈ daemons.held, start.place? holding.file.path ≠ some place
  elsewhere : ∀ place, (∀ holding ∈ daemons.held, start.place? holding.file.path ≠ some place) →
    (∀ file ∈ daemons.stranded, start.place? file.path ≠ some place) →
      daemons.host.files.entry? place = start.entry? place

theorem kept_start (host : Host) : Kept host.files { host } where
  directories := .refl host.files
  held := fun _ member => nomatch member
  apart := List.nodup_nil
  stranded := fun _ member => nomatch member
  elsewhere := fun _ _ _ => rfl

section

variable {start : Files} {daemons : Daemons} (kept : Kept start daemons)

include kept

/-- Paths lead where they led at the start. -/
theorem Kept.place?_eq (path : String) : daemons.host.files.place? path = start.place? path :=
  (Files.place?_congr kept.directories path).symm

theorem Kept.isDirectory_of_free {place : Location} (free : start.hasEntry place = false) :
    daemons.host.files.isDirectory place = false := by
  rw [← kept.directories.isDirectory, Files.isDirectory_of_free free]

theorem Kept.of_sameFiles {host : Host} (same : host.files = daemons.host.files) :
    Kept start { daemons with host } := by
  obtain ⟨directories, held, apart, stranded, elsewhere⟩ := kept
  exact ⟨same ▸ directories, same ▸ held, apart, same ▸ stranded, same ▸ elsewhere⟩

theorem Kept.of_held {holding : Holding} {place : Location} (member : holding ∈ daemons.held)
    (leads : start.place? holding.file.path = some place) :
    start.hasEntry place = false ∧ daemons.host.files.entry? place = some (PidFile.entry holding.pid) := by
  obtain ⟨other, otherLeads, free, there⟩ := kept.held holding member
  obtain rfl : other = place := by simpa [leads] using otherLeads.symm
  exact ⟨free, there⟩

theorem Kept.of_stranded {file : PidFile} {place : Location} (member : file ∈ daemons.stranded)
    (leads : start.place? file.path = some place) :
    start.hasEntry place = false ∧ daemons.host.files.entry? place ≠ none := by
  obtain ⟨other, otherLeads, free, there, -⟩ := kept.stranded file member
  obtain rfl : other = place := by simpa [leads] using otherLeads.symm
  exact ⟨free, there⟩

/-- Where nothing stands, no daemon has a file, and nothing stood at the start. -/
theorem Kept.of_free {place : Location} (free : daemons.host.files.hasEntry place = false) :
    (∀ holding ∈ daemons.held, start.place? holding.file.path ≠ some place) ∧
      (∀ file ∈ daemons.stranded, start.place? file.path ≠ some place) ∧ start.hasEntry place = false := by
  have nothing : daemons.host.files.entry? place = none := Files.entry?_of_free free
  have unheld : ∀ holding ∈ daemons.held, start.place? holding.file.path ≠ some place := by
    intro holding member leads
    have there := (kept.of_held member leads).2
    rw [nothing] at there
    cases there
  have unstranded : ∀ file ∈ daemons.stranded, start.place? file.path ≠ some place := by
    intro file member leads
    exact (kept.of_stranded member leads).2 nothing
  have before : start.entry? place = none := by rw [← kept.elsewhere place unheld unstranded, nothing]
  have plain : start.isDirectory place = false := by
    rw [kept.directories.isDirectory place, Files.isDirectory_of_free free]
  exact ⟨unheld, unstranded, by simp [Files.hasEntry, before, plain]⟩

/-- When a file is put where nothing stands, all the others are as before. -/
theorem Kept.put {host : Host} {place : Location} {entry : FileEntry} (plain : entry.kind ≠ .directory)
    (free : daemons.host.files.hasEntry place = false)
    (put : host.files = daemons.host.files.put place (some entry)) :
    start.SameDirectories host.files ∧
      (∀ holding ∈ daemons.held, ∃ other, start.place? holding.file.path = some other ∧
        start.hasEntry other = false ∧ host.files.entry? other = some (PidFile.entry holding.pid)) ∧
      (∀ file ∈ daemons.stranded, ∃ other, other ≠ place ∧ start.place? file.path = some other ∧
        start.hasEntry other = false ∧ host.files.entry? other ≠ none ∧
          ∀ holding ∈ daemons.held, start.place? holding.file.path ≠ some other) ∧
      ∀ other, other ≠ place → (∀ holding ∈ daemons.held, start.place? holding.file.path ≠ some other) →
        (∀ file ∈ daemons.stranded, start.place? file.path ≠ some other) →
          host.files.entry? other = start.entry? other := by
  obtain ⟨unheld, unstranded, -⟩ := kept.of_free free
  refine ⟨?directories, ?held, ?stranded, ?elsewhere⟩
  case directories =>
    rw [put]
    exact kept.directories.trans (Files.sameDirectories_put (Files.isDirectory_of_free free) (by simpa using plain))
  case held =>
    intro holding member
    obtain ⟨other, leads, otherFree, there⟩ := kept.held holding member
    have differs : other ≠ place := fun same => unheld holding member (same ▸ leads)
    exact ⟨other, leads, otherFree, by simp [put, differs, there]⟩
  case stranded =>
    intro file member
    obtain ⟨other, leads, otherFree, there, others⟩ := kept.stranded file member
    have differs : other ≠ place := fun same => unstranded file member (same ▸ leads)
    exact ⟨other, differs, leads, otherFree, by simp [put, differs, there], others⟩
  case elsewhere =>
    intro other differs otherUnheld otherUnstranded
    simp [put, differs, kept.elsewhere other otherUnheld otherUnstranded]

/-- A daemon takes a pid file where nothing stands. -/
theorem Kept.create {host : Host} {place : Location} (pid : Nat) {path : String}
    (leads : daemons.host.files.place? path = some place) (free : daemons.host.files.hasEntry place = false)
    (put : host.files = daemons.host.files.put place (some (PidFile.entry pid))) :
    Kept start { daemons with host, held := { pid, file := { path } } :: daemons.held } := by
  obtain ⟨directories, held, stranded, elsewhere⟩ := kept.put (by simp [PidFile.entry]) free put
  obtain ⟨unheld, -, freeBefore⟩ := kept.of_free free
  have leadsBefore : start.place? path = some place := by rw [← kept.place?_eq, leads]
  constructor
  case directories => exact directories
  case held =>
    intro holding member
    obtain rfl | member := List.mem_cons.mp member
    · exact ⟨place, leadsBefore, freeBefore, by simp [put]⟩
    · exact held holding member
  case apart =>
    rw [List.map_cons, leadsBefore]
    refine List.nodup_cons.mpr ⟨fun member => ?_, kept.apart⟩
    obtain ⟨holding, isHeld, sameLeads⟩ := List.mem_map.mp member
    exact unheld holding isHeld sameLeads
  case stranded =>
    intro file member
    obtain ⟨other, differs, otherLeads, otherFree, there, others⟩ := stranded file member
    refine ⟨other, otherLeads, otherFree, there, fun holding member => ?_⟩
    obtain rfl | member := List.mem_cons.mp member
    · rw [leadsBefore]
      simpa using differs.symm
    · exact others holding member
  case elsewhere =>
    intro other otherUnheld otherUnstranded
    have differs : other ≠ place := by
      rintro rfl
      exact otherUnheld _ List.mem_cons_self leadsBefore
    exact elsewhere other differs (fun holding member => otherUnheld holding (List.mem_cons_of_mem _ member))
      otherUnstranded

/-- A daemon makes a pid file where nothing stands, and can not write to it. -/
theorem Kept.unwritten {host : Host} {place : Location} {path : String}
    (leads : daemons.host.files.place? path = some place) (free : daemons.host.files.hasEntry place = false)
    (put : host.files = daemons.host.files.put place (some Host.emptyFile)) :
    Kept start { daemons with host, stranded := { path } :: daemons.stranded } := by
  obtain ⟨directories, held, stranded, elsewhere⟩ := kept.put (by simp [Host.emptyFile]) free put
  obtain ⟨unheld, -, freeBefore⟩ := kept.of_free free
  have leadsBefore : start.place? path = some place := by rw [← kept.place?_eq, leads]
  constructor
  case directories => exact directories
  case held => exact held
  case apart => exact kept.apart
  case stranded =>
    intro file member
    obtain rfl | member := List.mem_cons.mp member
    · exact ⟨place, leadsBefore, freeBefore, by simp [put], unheld⟩
    · obtain ⟨other, -, strandedAt⟩ := stranded file member
      exact ⟨other, strandedAt⟩
  case elsewhere =>
    intro other otherUnheld otherUnstranded
    have differs : other ≠ place := by
      rintro rfl
      exact otherUnstranded _ List.mem_cons_self leadsBefore
    exact elsewhere other differs otherUnheld fun file member => otherUnstranded file (List.mem_cons_of_mem _ member)

/-- Those who still hold a pid file after one is given up hold others, at other places. -/
theorem Kept.mem_erase {holding other : Holding} (member : holding ∈ daemons.held)
    (remains : other ∈ daemons.held.erase holding) :
    other ∈ daemons.held ∧ start.place? other.file.path ≠ start.place? holding.file.path := by
  obtain ⟨differs, still⟩ := (List.Nodup.mem_erase_iff kept.apart.of_map).mp remains
  exact ⟨still, fun same => differs (List.inj_on_of_nodup_map kept.apart still member same)⟩

/-- A daemon gives its pid file up, and it is removed. -/
theorem Kept.drop {host : Host} {holding : Holding} {place : Location} (member : holding ∈ daemons.held)
    (leads : start.place? holding.file.path = some place) (put : host.files = daemons.host.files.put place none) :
    Kept start { daemons with host, held := daemons.held.erase holding } := by
  have free := (kept.of_held member leads).1
  constructor
  case directories =>
    rw [put]
    exact kept.directories.trans (Files.sameDirectories_put (kept.isDirectory_of_free free) (by simp))
  case held =>
    intro other remains
    obtain ⟨still, apart⟩ := kept.mem_erase member remains
    obtain ⟨there, otherLeads, otherFree, is⟩ := kept.held other still
    have differs : there ≠ place := by
      rintro rfl
      exact apart (otherLeads.trans leads.symm)
    exact ⟨there, otherLeads, otherFree, by simp [put, differs, is]⟩
  case apart => exact kept.apart.sublist (List.erase_sublist.map _)
  case stranded =>
    intro file isStranded
    obtain ⟨there, fileLeads, fileFree, is, others⟩ := kept.stranded file isStranded
    have differs : there ≠ place := by
      rintro rfl
      exact others holding member leads
    exact ⟨there, fileLeads, fileFree, by simp [put, differs, is], fun other remains =>
      others other (kept.mem_erase member remains).1⟩
  case elsewhere =>
    intro other unheld unstranded
    by_cases here : other = place
    · subst here
      simp [put, Files.entry?_of_free free]
    · have before : ∀ held ∈ daemons.held, start.place? held.file.path ≠ some other := by
        intro held isHeld otherLeads
        by_cases given : held = holding
        · subst given
          exact here (by simpa [leads] using otherLeads.symm)
        · exact unheld held ((List.mem_erase_of_ne given).mpr isHeld) otherLeads
      simp [put, here, kept.elsewhere other before unstranded]

/-- A daemon gives its pid file up, and the removal is refused. -/
theorem Kept.undropped {host : Host} {holding : Holding} (member : holding ∈ daemons.held)
    (same : host.files = daemons.host.files) :
    Kept start { host, held := daemons.held.erase holding, stranded := holding.file :: daemons.stranded } := by
  obtain ⟨place, leads, free, there⟩ := kept.held holding member
  constructor
  case directories => exact same ▸ kept.directories
  case held =>
    intro other remains
    rw [same]
    exact kept.held other (kept.mem_erase member remains).1
  case apart => exact kept.apart.sublist (List.erase_sublist.map _)
  case stranded =>
    intro file isStranded
    obtain rfl | isStranded := List.mem_cons.mp isStranded
    · refine ⟨place, leads, free, by simp [same, there], fun other remains => ?_⟩
      rw [← leads]
      exact (kept.mem_erase member remains).2
    · obtain ⟨other, fileLeads, fileFree, is, others⟩ := kept.stranded file isStranded
      exact ⟨other, fileLeads, fileFree, by simp [same, is], fun held remains =>
        others held (kept.mem_erase member remains).1⟩
  case elsewhere =>
    intro other unheld unstranded
    rw [same]
    refine kept.elsewhere other (fun held isHeld otherLeads => ?_) fun file isStranded =>
      unstranded file (List.mem_cons_of_mem _ isStranded)
    by_cases given : held = holding
    · subst given
      exact unstranded _ List.mem_cons_self otherLeads
    · exact unheld held ((List.mem_erase_of_ne given).mpr isHeld) otherLeads

theorem Kept.act (act : Act) : Kept start (daemons.act act) := by
  cases act with
  | create pid path making writing =>
    have goes := PidFile.creates (daemons.host.facing [making, writing]) pid path
    simp only [Daemons.act, strandedBy]
    rcases result : PidFile.create (daemons.host.facing [making, writing]) pid path with ⟨error | file, after⟩
    · rw [result] at goes
      cases goes with
      | refused _ _ unopened same =>
        rw [if_neg fun stranded => unopened stranded.1]
        exact kept.of_sameFiles same
      | unwritten _ place _ opens refused leads free put =>
        have isRefused : writing ≠ none := fun isNone => refused ((Host.carriesOut_createNew_iff opens).mpr isNone)
        rw [if_pos ⟨opens, isRefused⟩]
        exact kept.unwritten leads free put
    · rw [result] at goes
      cases goes with
      | done place _ opens written leads free put =>
        have isWritten : writing = none := (Host.carriesOut_createNew_iff opens).mp written
        rw [if_neg fun stranded => stranded.2 isWritten]
        exact kept.create pid leads free put
  | drop holding removing =>
    by_cases member : holding ∈ daemons.held
    · obtain ⟨place, leads, free, there⟩ := kept.held holding member
      simp only [Daemons.act, strandedBy, if_pos member]
      cases removing with
      | none =>
        have leadsNow : daemons.host.files.place? holding.file.path = some place := by rw [kept.place?_eq, leads]
        have removes : (daemons.host.facing [none]).remove holding.file.path =
            (.ok (), (daemons.host.facing [none]).spent.put place none) :=
          Host.remove_of_entry rfl leadsNow (kept.isDirectory_of_free free) (by simp [there])
        rw [if_neg fun stranded => stranded.2 rfl]
        exact kept.drop member leads (by simp [PidFile.drop, removes])
      | some error =>
        rw [if_pos ⟨member, Option.some_ne_none error⟩]
        exact kept.undropped member rfl
    · simpa only [Daemons.act, if_neg member] using kept

theorem Kept.foldl (acts : List Act) : Kept start (acts.foldl Daemons.act daemons) := by
  induction acts generalizing daemons with
  | nil => exact kept
  | cons act rest ih => exact ih (kept.act act)

end

theorem kept_run (host : Host) (acts : List Act) : Kept host.files (run host acts) := (kept_start host).foldl acts

/-! ### Who has which place -/

/-- A daemon holds the pid file at a place. -/
def Holds (daemons : Daemons) (place : Location) : Prop :=
  ∃ holding ∈ daemons.held, daemons.host.files.place? holding.file.path = some place

/-- A pid file that nobody holds was left behind at a place. -/
def Strands (daemons : Daemons) (place : Location) : Prop :=
  ∃ file ∈ daemons.stranded, daemons.host.files.place? file.path = some place

/-- Daemons share the places where nothing stood at the start. -/
structure Exclusive (start : Files) (daemons : Daemons) : Prop where
  /-- No two pid files that are held lead to one place. -/
  one : (daemons.held.map fun holding => daemons.host.files.place? holding.file.path).Nodup
  written : ∀ holding ∈ daemons.held, ∃ place, daemons.host.files.place? holding.file.path = some place ∧
    daemons.host.files.entry? place = some (PidFile.entry holding.pid)
  /-- What is stranded is held by nobody. -/
  apart : ∀ place, daemons.Strands place → ¬ daemons.Holds place
  /-- There is a file exactly while it is held, or where one is stranded. -/
  exists_iff : ∀ place, start.hasEntry place = false →
    (daemons.host.files.hasEntry place = true ↔ daemons.Holds place ∨ daemons.Strands place)
  refused_iff : ∀ pid path place, daemons.host.files.place? path = some place → start.hasEntry place = false →
    ((PidFile.create (daemons.host.facing []) pid path).1 = .error (.pidFileExists path) ↔
      daemons.Holds place ∨ daemons.Strands place)
  taken_iff : ∀ pid path place, daemons.host.files.place? path = some place → start.hasEntry place = false →
    ((PidFile.create (daemons.host.facing []) pid path).1 = .ok { path } ↔
      ¬ (daemons.Holds place ∨ daemons.Strands place))
  /-- What stood at the start is left alone, and is in the way of every pid file. -/
  standing : ∀ place, start.hasEntry place = true → daemons.host.files.entry? place = start.entry? place ∧
    ∀ pid path, daemons.host.files.place? path = some place →
      (PidFile.create (daemons.host.facing []) pid path).1 = .error (.pidFileExists path)

/-- Where nothing stood at the start, there is a file exactly while a daemon holds it, and only then a pid file is
refused. -/
structure OnlyHeld (start : Files) (daemons : Daemons) : Prop where
  exists_iff : ∀ place, start.hasEntry place = false →
    (daemons.host.files.hasEntry place = true ↔ daemons.Holds place)
  refused_iff : ∀ pid path place, daemons.host.files.place? path = some place → start.hasEntry place = false →
    ((PidFile.create (daemons.host.facing []) pid path).1 = .error (.pidFileExists path) ↔ daemons.Holds place)

section

variable {start : Files} {daemons : Daemons} (kept : Kept start daemons)

include kept

theorem Kept.hasEntry_iff {place : Location} (free : start.hasEntry place = false) :
    daemons.host.files.hasEntry place = true ↔ daemons.Holds place ∨ daemons.Strands place := by
  constructor
  · intro there
    by_contra nobody
    obtain ⟨unheld, unstranded⟩ := not_or.mp nobody
    have same : daemons.host.files.entry? place = start.entry? place := by
      refine kept.elsewhere place (fun holding member leads => unheld ⟨holding, member, ?_⟩) fun file member leads =>
        unstranded ⟨file, member, ?_⟩
      · rw [kept.place?_eq, leads]
      · rw [kept.place?_eq, leads]
    rw [Files.hasEntry, kept.isDirectory_of_free free, same, Files.entry?_of_free free] at there
    cases there
  · rintro (⟨holding, member, leads⟩ | ⟨file, member, leads⟩)
    · rw [kept.place?_eq] at leads
      exact Files.hasEntry_of_entry (by simp [(kept.of_held member leads).2])
    · rw [kept.place?_eq] at leads
      exact Files.hasEntry_of_entry (kept.of_stranded member leads).2

/-- A stranded file is at a place where nothing stood at the start, and nobody holds it. -/
theorem Kept.exists_place {file : PidFile} (member : file ∈ daemons.stranded) :
    ∃ place, daemons.host.files.place? file.path = some place ∧ start.hasEntry place = false ∧
      ¬ daemons.Holds place := by
  obtain ⟨place, leads, free, -, others⟩ := kept.stranded file member
  refine ⟨place, by rw [kept.place?_eq, leads], free, ?_⟩
  rintro ⟨holding, isHeld, heldLeads⟩
  exact others holding isHeld (by rw [← kept.place?_eq, heldLeads])

/-- What stood at the start stays. -/
theorem Kept.of_standing {place : Location} (stood : start.hasEntry place = true) :
    daemons.host.files.entry? place = start.entry? place ∧ daemons.host.files.hasEntry place = true := by
  have same : daemons.host.files.entry? place = start.entry? place := by
    refine kept.elsewhere place (fun holding member leads => ?_) fun file member leads => ?_
    · have free := (kept.of_held member leads).1
      rw [stood] at free
      cases free
    · have free := (kept.of_stranded member leads).1
      rw [stood] at free
      cases free
  refine ⟨same, ?_⟩
  rwa [Files.hasEntry, same, ← kept.directories.isDirectory]

end

/-- The result of taking a pid file tells whether something stands there. -/
theorem create_facing_nil (daemons : Daemons) (pid : Nat) {path : String} {place : Location}
    (leads : daemons.host.files.place? path = some place) :
    (PidFile.create (daemons.host.facing []) pid path).1 =
      if daemons.host.files.hasEntry place then .error (.pidFileExists path) else .ok { path } := by
  split
  · rename_i taken
    rw [PidFile.create_of_taken pid daemons.host.carriesOut_facing leads taken]
  · rename_i free
    exact PidFile.create_of_free pid leads (by simpa using free)

theorem create_refused_iff (daemons : Daemons) (pid : Nat) {path : String} {place : Location}
    (leads : daemons.host.files.place? path = some place) :
    (PidFile.create (daemons.host.facing []) pid path).1 = .error (.pidFileExists path) ↔
      daemons.host.files.hasEntry place = true := by
  rw [create_facing_nil daemons pid leads]
  split <;> simp_all

/-- Whatever daemons did, each place is held by at most one of them, and there is a file exactly while one holds it, or
where one is stranded. -/
theorem exclusive_run (host : Host) (acts : List Act) : Exclusive host.files (run host acts) := by
  have kept := kept_run host acts
  constructor
  case one =>
    simp only [kept.place?_eq]
    exact kept.apart
  case written =>
    intro holding member
    obtain ⟨place, leads, -, there⟩ := kept.held holding member
    exact ⟨place, by rw [kept.place?_eq, leads], there⟩
  case apart =>
    rintro place ⟨file, member, leads⟩
    obtain ⟨other, otherLeads, -, unheld⟩ := kept.exists_place member
    obtain rfl : other = place := by simpa [leads] using otherLeads.symm
    exact unheld
  case exists_iff => exact fun place free => kept.hasEntry_iff free
  case refused_iff =>
    intro pid path place leads free
    rw [create_refused_iff _ pid leads, kept.hasEntry_iff free]
  case taken_iff =>
    intro pid path place leads free
    rw [create_facing_nil _ pid leads, ← kept.hasEntry_iff free]
    split <;> simp_all
  case standing =>
    intro place stood
    obtain ⟨same, there⟩ := kept.of_standing stood
    exact ⟨same, fun pid path leads => (create_refused_iff _ pid leads).mpr there⟩

/-! ### Stranded files -/

theorem stranded_act (daemons : Daemons) (act : Act) :
    (daemons.act act).stranded = (daemons.strandedBy act).toList ++ daemons.stranded := by
  cases act with
  | create pid path making writing =>
    simp only [Daemons.act]
    split <;> rfl
  | drop holding removing =>
    by_cases member : holding ∈ daemons.held
    · simp only [Daemons.act, if_pos member]
    · simp [Daemons.act, strandedBy, member]

/-- A stranded file stays stranded. -/
theorem stranded_foldl_suffix (daemons : Daemons) (acts : List Act) :
    daemons.stranded <:+ (acts.foldl act daemons).stranded := by
  induction acts generalizing daemons with
  | nil => exact List.suffix_rfl
  | cons first rest ih =>
    refine List.IsSuffix.trans ?_ (ih (daemons.act first))
    rw [stranded_act]
    exact List.suffix_append _ _

theorem mem_stranded_run (host : Host) (before after : List Act) {act : Act} {file : PidFile}
    (strands : (run host before).strandedBy act = some file) :
    file ∈ (run host (before ++ act :: after)).stranded := by
  rw [run_append_cons]
  refine (stranded_foldl_suffix ((run host before).act act) after).subset ?_
  simp [stranded_act, strands]

/-- No file is stranded in the end exactly if nothing that was done stranded one. -/
theorem stranded_run_eq_nil_iff (host : Host) (acts : List Act) :
    (run host acts).stranded = [] ↔
      ∀ before act after, acts = before ++ act :: after → (run host before).strandedBy act = none := by
  constructor
  · rintro none before act after rfl
    cases strands : (run host before).strandedBy act with
    | none => rfl
    | some file =>
      have member := mem_stranded_run host before after strands
      rw [none] at member
      cases member
  · intro none
    induction acts using List.reverseRecOn with
    | nil => rfl
    | append_singleton acts act ih =>
      have earlier : (run host acts).stranded = [] := by
        refine ih fun before other after split => none before other (after ++ [act]) ?_
        rw [split, List.append_assoc, List.cons_append]
      have last : (run host acts).strandedBy act = Option.none := none acts act [] rfl
      rw [run_append_cons, List.foldl_nil, stranded_act, last, earlier]
      rfl

/-- **There is a file exactly while a daemon holds it, and a pid file is refused only then, if and only if nothing that
was done stranded a file.** -/
theorem onlyHeld_run_iff (host : Host) (acts : List Act) :
    OnlyHeld host.files (run host acts) ↔
      ∀ before act after, acts = before ++ act :: after → (run host before).strandedBy act = none := by
  have kept := kept_run host acts
  rw [← stranded_run_eq_nil_iff]
  constructor
  · intro onlyHeld
    by_contra something
    obtain ⟨file, member⟩ := List.exists_mem_of_ne_nil _ something
    obtain ⟨place, leads, free, unheld⟩ := kept.exists_place member
    have there := (kept.hasEntry_iff free).mpr (.inr ⟨file, member, leads⟩)
    exact unheld ((onlyHeld.exists_iff place free).mp there)
  · intro nothing
    have exists_iff (place : Location) (free : host.files.hasEntry place = false) :
        (run host acts).host.files.hasEntry place = true ↔ (run host acts).Holds place := by
      rw [kept.hasEntry_iff free, or_iff_left]
      rintro ⟨file, member, -⟩
      rw [nothing] at member
      cases member
    refine ⟨exists_iff, fun pid path place leads free => ?_⟩
    rw [create_refused_iff _ pid leads, exists_iff place free]

/-- **A file that was stranded is in the way of every daemon from then on, though none holds it.** -/
theorem refused_once_stranded (host : Host) (before after : List Act) {act : Act} {file : PidFile}
    (strands : (run host before).strandedBy act = some file) :
    ∃ place, (run host (before ++ act :: after)).host.files.place? file.path = some place ∧
      ¬ (run host (before ++ act :: after)).Holds place ∧
        ∀ pid path, (run host (before ++ act :: after)).host.files.place? path = some place →
          (PidFile.create ((run host (before ++ act :: after)).host.facing []) pid path).1 =
            .error (.pidFileExists path) := by
  have kept := kept_run host (before ++ act :: after)
  have member := mem_stranded_run host before after strands
  obtain ⟨place, leads, free, unheld⟩ := kept.exists_place member
  have there := (kept.hasEntry_iff free).mpr (.inr ⟨file, member, leads⟩)
  exact ⟨place, leads, unheld, fun pid path otherLeads => (create_refused_iff _ pid otherLeads).mpr there⟩

end Daemons

end NodeBus
