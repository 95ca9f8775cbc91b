import NodeBus.Proofs.PidFiles
import NodeBus.Proofs.SocketBinding

/-!
# When starting up fails

What removes a pid file or a socket file in the end comes into being only when the file is complete. A failure before
that leaves the file behind: `startUp_tidy` says exactly when, what is left, and whom it is in the way of. A socket file
is removed by the next start, which finds it; an empty pid file keeps every start from succeeding, though nobody holds
it (`failedStart_leavesFiles`).
-/
namespace NodeBus

/-! ### Places of sockets -/

namespace Files

theorem find_of_leads {files : Files} {text : String} {place : Location} (leads : files.place? text = some place)
    (plain : files.isDirectory place = false) (there : files.hasEntry place = true) : files.find text = .ok place := by
  obtain ⟨parent, name, target, found⟩ := place?_eq_some_iff.mp leads
  simp [find, target, found, plain, there, bind, Except.bind]

/-- A name that stands for no file leads nowhere. -/
theorem find_ne_ok {files : Files} {text : String} (nameless : text = "" ∨ text.toList.contains '\x00' = true)
    (place : Location) : files.find text ≠ .ok place := by
  intro found
  obtain ⟨target, reached, -⟩ := exists_of_bind_eq_ok found
  unfold Files.target at reached
  split at reached
  · cases reached
  · rename_i plain
    split at reached
    · cases reached
    · rename_i named
      exact nameless.elim named plain

end Files

namespace Listeners

/-- Clearing the way for a socket changes its place only. -/
theorem Cleared.files_eq {host cleared : Host} {path : String} (clear : Cleared host path cleared) :
    cleared.files = host.files ∨ ∃ place, host.files.place? path = some place ∧
      host.files.isDirectory place = false ∧ cleared.files = host.files.put place none := by
  unfold Cleared at clear
  split at clear
  · obtain ⟨place, leads, plain, rfl⟩ := Host.remove_eq_ok clear
    exact .inr ⟨place, leads, plain, by simp⟩
  · exact .inl (by rw [clear])

theorem Cleared.sameDirectories {host cleared : Host} {path : String} (clear : Cleared host path cleared) :
    host.files.SameDirectories cleared.files := by
  obtain same | ⟨place, -, plain, put⟩ := clear.files_eq
  · rw [same]
    exact .refl host.files
  · rw [put]
    exact Files.sameDirectories_put plain (by simp)

theorem Cleared.place?_eq {host cleared : Host} {path : String} (clear : Cleared host path cleared) (text : String) :
    cleared.files.place? text = host.files.place? text :=
  (Files.place?_congr clear.sameDirectories text).symm

/-- What is put at the place of a socket whose way was cleared, could as well be put there before. -/
theorem Cleared.put_eq {host cleared : Host} {path : String} {place : Location} (clear : Cleared host path cleared)
    (leads : cleared.files.place? path = some place) (entry : Option FileEntry) :
    cleared.files.put place entry = host.files.put place entry := by
  obtain same | ⟨other, otherLeads, -, put⟩ := clear.files_eq
  · rw [same]
  · rw [← clear.place?_eq, leads] at otherLeads
    cases otherLeads
    rw [put, Files.put_put]

theorem Cleared.unique {host one other : Host} {path : String} (first : Cleared host path one)
    (second : Cleared host path other) : one = other := by
  unfold Cleared at first second
  split at first
  · rw [if_pos ‹_›, first] at second
    exact (Prod.mk.inj second).2
  · rw [if_neg ‹_›] at second
    rw [← first, second]

/-- A file is made for a socket. -/
def Makes (host : Host) (path : String) : Prop :=
  ∃ cleared bound, Cleared host path cleared ∧ cleared.bindUnix path = (.ok (), bound) ∧ bound.files ≠ cleared.files

/-- The file that is made for a socket is at the place its path leads to. -/
theorem Makes.files_eq {host cleared bound : Host} {path : String} (makes : Makes host path)
    (clear : Cleared host path cleared) (binds : cleared.bindUnix path = (.ok (), bound)) :
    ∃ place, host.files.place? path = some place ∧ host.files.isDirectory place = false ∧
      bound.files = host.files.put place (some Host.socketEntry) := by
  obtain ⟨cleared', bound', clear', binds', made⟩ := makes
  obtain rfl := clear.unique clear'
  obtain rfl : bound = bound' := by simpa [binds] using binds'
  obtain ⟨same, -⟩ | ⟨place, leads, free, put⟩ := Host.bindUnix_eq_ok binds
  · exact absurd (by rw [same, Host.spent_files]) made
  · refine ⟨place, by rw [← clear.place?_eq, leads], ?_, by simp [put, clear.put_eq leads]⟩
    rw [clear.sameDirectories.isDirectory, Files.isDirectory_of_free free]

/-- Permissions can only be set for a socket that has a file. -/
theorem exists_place_of_setMode {cleared bound permitted : Host} {path : String} {mode : Nat}
    (binds : cleared.bindUnix path = (.ok (), bound)) (permits : bound.setMode path mode = (.ok (), permitted)) :
    ∃ place, cleared.files.place? path = some place ∧ cleared.files.hasEntry place = false ∧
      bound.files = cleared.files.put place (some Host.socketEntry) ∧
        permitted.files = cleared.files.put place (some { kind := .socket, mode }) := by
  obtain ⟨found, finds, permittedEq⟩ := Host.setMode_eq_ok permits
  obtain ⟨-, nameless⟩ | ⟨place, leads, free, boundEq⟩ := Host.bindUnix_eq_ok binds
  · exact absurd finds (Files.find_ne_ok nameless found)
  · have files : bound.files = cleared.files.put place (some Host.socketEntry) := by simp [boundEq]
    have plain : cleared.files.isDirectory place = false := Files.isDirectory_of_free free
    have directories : cleared.files.SameDirectories bound.files := by
      rw [files]
      exact Files.sameDirectories_put plain (by simp [Host.socketEntry])
    have finds' : bound.files.find path = .ok place :=
      Files.find_of_leads (by rw [← Files.place?_congr directories, leads])
        (by rw [← directories.isDirectory, plain]) (by simp [Files.hasEntry, files])
    obtain rfl : found = place := by simpa [finds] using finds'
    exact ⟨found, leads, free, files, by simp [permittedEq, files, Host.socketEntry]⟩

theorem makes_of_setMode {host cleared bound permitted : Host} {path : String} {mode : Nat}
    (clear : Cleared host path cleared) (binds : cleared.bindUnix path = (.ok (), bound))
    (permits : bound.setMode path mode = (.ok (), permitted)) : Makes host path := by
  obtain ⟨place, -, free, made, -⟩ := exists_place_of_setMode binds permits
  refine ⟨cleared, bound, clear, binds, fun same => ?_⟩
  have there : bound.files.entry? place = some Host.socketEntry := by simp [made]
  rw [same, Files.entry?_of_free free] at there
  cases there

/-- A socket that is set up has a file. -/
theorem SetUp.files_eq {host after : Host} {config : Configuration} {path : String}
    (setUp : SetUp host config path after) : ∃ place mode, host.files.place? path = some place ∧
      host.files.isDirectory place = false ∧ after.files = host.files.put place (some { kind := .socket, mode }) := by
  obtain ⟨cleared, bound, permitted, mode, clear, binds, -, permits, owned⟩ := setUp
  obtain ⟨place, leads, free, -, permittedEq⟩ := exists_place_of_setMode binds permits
  have same : after.files = permitted.files := by
    unfold Owned at owned
    split at owned
    · rw [owned]
    · exact Host.setOwner_files owned
  refine ⟨place, mode, by rw [← clear.place?_eq, leads], ?_, ?_⟩
  · rw [clear.sameDirectories.isDirectory, Files.isDirectory_of_free free]
  · rw [same, permittedEq, clear.put_eq leads]

theorem SetUp.makes {host after : Host} {config : Configuration} {path : String}
    (setUp : SetUp host config path after) : Makes host path := by
  obtain ⟨_, _, _, _, clear, binds, -, permits, -⟩ := setUp
  exact makes_of_setMode clear binds permits

/-! ### Services -/

theorem tries_files (host : Host) (config : Configuration) (port : Option UInt16) :
    (tries host config port).2.files = host.files := by
  have tried (host : Host) (sockets : List SocketAddress) : (host.bindAll sockets).2.files = host.files := by
    induction sockets generalizing host with
    | nil => rfl
    | cons socket rest ih => exact (ih _).trans (Host.bindTcp_files host socket)
  cases port with
  | none => rfl
  | some port => exact tried host (config.bindAddresses port)

/-- Binding services does nothing to the files. -/
theorem bindServices_files (host : Host) (config : Configuration) :
    (bindServices host config {}).2.files = host.files := by
  have commands : (commandTries host config).2.files = host.files := tries_files host config config.service
  have texts : (textTries host config).2.files = host.files := (tries_files _ config config.textService).trans commands
  have goes := bindsServices host config {}
  generalize (bindServices host config {}).1 = result, (bindServices host config {}).2 = after at goes ⊢
  cases goes with
  | commandsFail => exact commands
  | textsFail => exact texts
  | done => exact texts

/-- When a service fails, what was bound before is closed. -/
theorem drop_of_bindServices_error {host after : Host} {config : Configuration} {listeners : Listeners}
    {error : StartupError} (fails : bindServices host config listeners = (.error error, after)) :
    after = listeners.drop (bindServices host config {}).2 := by
  rcases commands : bindService host config config.service "command service" .inet4Command .inet6Command
    with ⟨_ | some, between⟩
  · simp only [bindServices, commands] at fails ⊢
    cases fails
    rfl
  · rcases texts : bindService between config config.textService "text service" .inet4Text .inet6Text
      with ⟨_ | others, last⟩
    · simp only [bindServices, commands, texts] at fails ⊢
      cases fails
      rfl
    · simp only [bindServices, commands, texts] at fails
      cases fails

/-! ### What is left behind -/

/-- The file of a socket is removed again after the services failed: the socket was set up, and the removal is carried
out. -/
def Removes (host : Host) (config : Configuration) (path : String) : Prop :=
  ∃ between, SetUp host config path between ∧ (bindServices between config {}).2.CarriesOut

/-- Opening the sockets failed, and this is left of it: the file of a socket, which the next start removes. -/
structure LeavesSocket (host : Host) (path : String) (after : Host) (place : Location) (mode : Nat) : Prop where
  leads : host.files.place? path = some place
  put : after.files = host.files.put place (some { kind := .socket, mode })
  clears : ∀ next : Host, next.CarriesOut → next.files = after.files → Cleared next path (next.spent.put place none)

/-- What opening the sockets leaves when it fails. -/
structure Leaves (host : Host) (config : Configuration) (after : Host) : Prop where
  withoutSocket : config.socket = none → after.files = host.files
  /-- When no file was made for the socket, one that stood in its way may have been removed. -/
  unmade : ∀ path, config.socket = some path → ¬ Makes host path → after.files = host.files ∨
    ∃ place, host.files.place? path = some place ∧ after.files = host.files.put place none
  removed : ∀ path, config.socket = some path → Removes host config path →
    ∃ place, host.files.place? path = some place ∧ after.files = host.files.put place none
  stays : ∀ path, config.socket = some path → Makes host path → ¬ Removes host config path →
    ∃ place mode, LeavesSocket host path after place mode

/-- No file that was made for the socket is left. -/
def LeavesNoSocket (host : Host) (config : Configuration) (after : Host) : Prop :=
  ∀ path place, config.socket = some path → Makes host path → host.files.place? path = some place →
    after.files.entry? place = none

theorem files_of_unmade {host after : Host} {config : Configuration} {path : String} {error : StartupError}
    (fails : bindUnix host config path = (.error error, after)) (unmade : ¬ Makes host path) :
    after.files = host.files ∨
      ∃ place, host.files.place? path = some place ∧ after.files = host.files.put place none := by
  have cleared_files {cleared : Host} (clear : Cleared host path cleared) (same : after.files = cleared.files) :
      after.files = host.files ∨
        ∃ place, host.files.place? path = some place ∧ after.files = host.files.put place none := by
    obtain unchanged | ⟨place, leads, -, put⟩ := clear.files_eq
    · exact .inl (same.trans unchanged)
    · exact .inr ⟨place, leads, same.trans put⟩
  have noFile {cleared bound : Host} (clear : Cleared host path cleared)
      (binds : cleared.bindUnix path = (.ok (), bound)) : bound.files = cleared.files := by
    by_contra made
    exact unmade ⟨cleared, bound, clear, binds, made⟩
  have goes := setsUp host config path
  simp only [fails] at goes
  cases goes with
  | blocked refusal _ stale refused => exact .inl (by rw [Host.call_eq_error refused, Host.spent_files])
  | unbound refusal cleared _ clear refused =>
    exact cleared_files clear (by rw [Host.call_eq_error refused, Host.spent_files])
  | unreadable cleared bound clear binds noMode => exact cleared_files clear (noFile clear binds)
  | unpermitted refusal cleared bound _ mode clear binds isMode refused =>
    refine cleared_files clear ?_
    rw [Host.call_eq_error refused, Host.spent_files, noFile clear binds]
  | unowned _ cleared bound permitted _ mode clear binds isMode permits =>
    exact absurd (makes_of_setMode clear binds permits) unmade

section

variable {host later : Host} {path : String} {place : Location} {mode : Nat}
  (leads : host.files.place? path = some place) (plain : host.files.isDirectory place = false)
  (put : later.files = host.files.put place (some { kind := .socket, mode }))

include leads plain put

/-- The file of a socket can be found, and removed. -/
theorem clears_of_put (carriedOut : later.CarriesOut) :
    later.finds path = true ∧ later.remove path = (.ok (), later.spent.put place none) := by
  have directories : host.files.SameDirectories later.files := by
    rw [put]
    exact Files.sameDirectories_put plain (by simp)
  have leadsLater : later.files.place? path = some place := by rw [← Files.place?_congr directories, leads]
  have plainLater : later.files.isDirectory place = false := by rw [← directories.isDirectory, plain]
  have there : later.files.entry? place ≠ none := by simp [put]
  constructor
  · rw [Host.finds, Files.find_of_leads leadsLater plainLater (Files.hasEntry_of_entry there)]
    rfl
  · exact Host.remove_of_entry carriedOut leadsLater plainLater there

theorem leavesSocket_of_put : LeavesSocket host path later place mode where
  leads := leads
  put := put
  clears := by
    intro next carriedOut same
    obtain ⟨finds, removes⟩ := clears_of_put leads plain (same.trans put) carriedOut
    rwa [Cleared, if_pos finds]

end

/-- The file of a socket that is set up is removed with it. -/
theorem files_of_drop {host between services : Host} {config : Configuration} {path : String}
    (setUp : SetUp host config path between) (same : services.files = between.files)
    (carriedOut : services.CarriesOut) : ∃ place, host.files.place? path = some place ∧
      ((withSocket path).drop services).files = host.files.put place none := by
  obtain ⟨place, mode, leads, plain, put⟩ := setUp.files_eq
  obtain ⟨-, removes⟩ := clears_of_put leads plain (same.trans put) carriedOut
  refine ⟨place, leads, ?_⟩
  simp [drop, withSocket, removes, same, put]

/-- A file that was made for a socket stays when setting up the socket fails behind that. -/
theorem files_of_made {host after : Host} {config : Configuration} {path : String} {error : StartupError}
    (fails : bindUnix host config path = (.error error, after)) (makes : Makes host path) :
    ∃ place mode, LeavesSocket host path after place mode := by
  have goes := setsUp host config path
  simp only [fails] at goes
  cases goes with
  | blocked refusal _ stale refused =>
    obtain ⟨cleared, -, clear, -⟩ := makes
    rw [Cleared, if_pos stale, refused] at clear
    cases clear
  | unbound refusal cleared _ clear refused =>
    obtain ⟨cleared', bound, clear', binds, -⟩ := makes
    rw [← clear.unique clear', refused] at binds
    cases binds
  | unreadable cleared bound clear binds =>
    obtain ⟨place, leads, plain, put⟩ := makes.files_eq clear binds
    exact ⟨place, Host.directoryMode, leavesSocket_of_put leads plain put⟩
  | unpermitted refusal cleared bound _ mode clear binds isMode refused =>
    obtain ⟨place, leads, plain, put⟩ := makes.files_eq clear binds
    have same : after.files = bound.files := by rw [Host.call_eq_error refused, Host.spent_files]
    exact ⟨place, Host.directoryMode, leavesSocket_of_put leads plain (same.trans put)⟩
  | unowned refusal cleared bound permitted _ mode clear binds isMode permits set refused =>
    obtain ⟨place, leads, free, -, put⟩ := exists_place_of_setMode binds permits
    have same : after.files = permitted.files := by rw [Host.call_eq_error refused, Host.spent_files]
    have plain : host.files.isDirectory place = false := by
      rw [clear.sameDirectories.isDirectory, Files.isDirectory_of_free free]
    exact ⟨place, mode, leavesSocket_of_put (by rw [← clear.place?_eq, leads]) plain
      (by rw [same, put, clear.put_eq leads])⟩

/-- A removal that is refused leaves the files as they are. -/
theorem files_of_drop_refused {services : Host} (path : String) (refused : ¬ services.CarriesOut) :
    ((withSocket path).drop services).files = services.files := by
  simp only [drop, withSocket]
  rcases removes : services.remove path with ⟨error | _, after⟩
  · rw [Host.call_eq_error removes, Host.spent_files]
  · exact absurd (Host.carriesOut_of_call_eq_ok removes) refused

theorem leaves {host after : Host} {config : Configuration} {error : StartupError}
    (fails : bind host config = (.error error, after)) : Leaves host config after := by
  constructor
  case withoutSocket =>
    intro noSocket
    simp only [bind, noSocket] at fails
    rw [drop_of_bindServices_error fails]
    exact bindServices_files host config
  case unmade =>
    intro path socket unmade
    simp only [bind, socket] at fails
    rcases result : bindUnix host config path with ⟨refusal | _, between⟩
    · simp only [result] at fails
      cases fails
      exact files_of_unmade result unmade
    · exact absurd (bindUnix_eq_ok_iff.mp result).makes unmade
  case removed =>
    rintro path socket ⟨between, setUp, carriedOut⟩
    simp only [bind, socket, bindUnix_eq_ok_iff.mpr setUp] at fails
    rw [drop_of_bindServices_error fails]
    exact files_of_drop setUp (bindServices_files between config) carriedOut
  case stays =>
    intro path socket makes remains
    simp only [bind, socket] at fails
    rcases result : bindUnix host config path with ⟨refusal | _, between⟩
    · simp only [result] at fails
      cases fails
      exact files_of_made result makes
    · simp only [result] at fails
      have setUp : SetUp host config path between := bindUnix_eq_ok_iff.mp result
      have refused : ¬ (bindServices between config {}).2.CarriesOut := fun carriedOut =>
        remains ⟨between, setUp, carriedOut⟩
      obtain ⟨place, mode, leads, plain, put⟩ := setUp.files_eq
      refine ⟨place, mode, leavesSocket_of_put leads plain ?_⟩
      rw [drop_of_bindServices_error fails]
      exact (files_of_drop_refused path refused).trans ((bindServices_files between config).trans put)

/-- **Opening the sockets leaves no socket file exactly if one that was made was set up, and its removal is carried
out.** -/
theorem leavesNoSocket_iff {host after : Host} {config : Configuration} {error : StartupError}
    (fails : bind host config = (.error error, after)) :
    LeavesNoSocket host config after ↔
      ∀ path, config.socket = some path → Makes host path → Removes host config path := by
  have left := leaves fails
  constructor
  · intro nothing path socket makes
    by_contra remains
    obtain ⟨place, mode, stays⟩ := left.stays path socket makes remains
    have gone := nothing path place socket makes stays.leads
    rw [stays.put, Files.put_entry?, if_pos rfl] at gone
    cases gone
  · intro removes path place socket makes leads
    obtain ⟨other, otherLeads, put⟩ := left.removed path socket (removes path socket makes)
    obtain rfl : other = place := by simpa [leads] using otherLeads.symm
    rw [put, Files.put_entry?, if_pos rfl]

end Listeners

/-! ### Starting up -/

/-- What starting up, and daemons that start and stop on one machine, do to the files. -/
structure TidyStartUp (host : Host) : Prop where
  /-- A pid file that can not be taken leaves the files as they were exactly if it can not even be made. -/
  pidFile_iff : ∀ pid path error after, PidFile.create host pid path = (.error error, after) →
    (after.files = host.files ↔ (host.createNew path).1 ≠ .ok ())
  unwritten : ∀ pid path error after, PidFile.create host pid path = (.error error, after) →
    (host.createNew path).1 = .ok () → ∃ place, PidFile.LeavesEmptyFile host path after place
  /-- Sockets that can not be opened leave no socket file exactly if one that was made was set up and is removed. -/
  sockets_iff : ∀ config error after, Listeners.bind host config = (.error error, after) →
    (Listeners.LeavesNoSocket host config after ↔
      ∀ path, config.socket = some path → Listeners.Makes host path → Listeners.Removes host config path)
  sockets : ∀ config error after, Listeners.bind host config = (.error error, after) →
    Listeners.Leaves host config after
  exclusive : ∀ acts, Daemons.Exclusive host.files (Daemons.run host acts)
  /-- There is a file only while a daemon holds it, exactly if nothing that was done stranded one. -/
  onlyHeld_iff : ∀ acts, Daemons.OnlyHeld host.files (Daemons.run host acts) ↔
    ∀ before act after, acts = before ++ act :: after → (Daemons.run host before).strandedBy act = none
  /-- What is stranded is in the way of every daemon from then on. -/
  refused : ∀ before act after file, (Daemons.run host before).strandedBy act = some file →
    ∃ place, (Daemons.run host (before ++ act :: after)).host.files.place? file.path = some place ∧
      ¬ (Daemons.run host (before ++ act :: after)).Holds place ∧
        ∀ pid path, (Daemons.run host (before ++ act :: after)).host.files.place? path = some place →
          (PidFile.create ((Daemons.run host (before ++ act :: after)).host.facing []) pid path).1 =
            .error (.pidFileExists path)

/-- **When a start that fails leaves something behind, and whom it is in the way of.** -/
theorem startUp_tidy (host : Host) : TidyStartUp host where
  pidFile_iff := fun _ _ _ _ fails => PidFile.files_of_create_error_iff fails
  unwritten := fun _ _ _ _ fails opens => PidFile.leavesEmptyFile fails opens
  sockets_iff := fun _ _ _ fails => Listeners.leavesNoSocket_iff fails
  sockets := fun _ _ _ fails => Listeners.leaves fails
  exclusive := Daemons.exclusive_run host
  onlyHeld_iff := Daemons.onlyHeld_run_iff host
  refused := fun before _ after _ strands => Daemons.refused_once_stranded host before after strands

def noSpaceLeft : SystemError := .other "No space left on device (os error 28)"

def notPermitted : SystemError := .other "Operation not permitted (os error 1)"

/-- A machine that makes a file and then has no space for what is written to it. -/
def fullHost : Host where
  faults := [none, some noSpaceLeft]

/-- A machine that makes a socket, and refuses to give it away. -/
def unprivilegedHost : Host where
  faults := [none, none, some notPermitted]

/-- Writing the pid, or giving the socket away, is refused: the file that the start has made stays. The pid file refuses
the next start, though nobody holds it. -/
theorem failedStart_leavesFiles :
    fullHost.files.entry? ["hand.pid"] = none ∧
      (PidFile.create fullHost 7 "hand.pid").1 = .error (.pidFile "hand.pid" noSpaceLeft) ∧
      (PidFile.create fullHost 7 "hand.pid").2.files.entry? ["hand.pid"] = some Host.emptyFile ∧
      (Daemons.run {} [.create 7 "hand.pid" none (some noSpaceLeft)]).held = [] ∧
      (PidFile.create (Daemons.run {} [.create 7 "hand.pid" none (some noSpaceLeft)]).host 8 "hand.pid").1 =
        .error (.pidFileExists "hand.pid") ∧
      unprivilegedHost.files.entry? ["hand.sock"] = none ∧
      (Listeners.bind unprivilegedHost { socket := some "hand.sock", socketUid := some 0 }).1 =
        .error (.bind "hand.sock" notPermitted) ∧
      Files.entry? (Listeners.bind unprivilegedHost { socket := some "hand.sock", socketUid := some 0 }).2.files
        ["hand.sock"] = some { kind := .socket, mode := 0o660 } := by
  decide +kernel

end NodeBus
