import Mathlib
import NodeBus.Host.Basic

/-!
# What calls do to files

Where a path leads depends on the directories only (`Files.place?_congr`), so putting or removing a file or a socket
sends no other path elsewhere. What a call does to the files is told by the place its path leads to: exactly, where the
call is carried out, and from its success, whatever was planned.
-/
namespace NodeBus

theorem exists_of_bind_eq_ok {ε α β : Type} {step : Except ε α} {next : α → Except ε β} {value : β}
    (succeeds : (step >>= next) = .ok value) : ∃ result, step = .ok result ∧ next result = .ok value := by
  cases step with
  | error => cases succeeds
  | ok result => exact ⟨result, rfl, succeeds⟩

/-! ### Places -/

namespace Files

/-- The place a path leads to that names something in a directory, with no slash behind the name. -/
def place? (files : Files) (text : String) : Option Location :=
  match files.target text with
  | .ok (.name parent name false) => (lookUp parent name).toOption
  | _ => none

theorem place?_eq_some_iff {files : Files} {text : String} {place : Location} :
    files.place? text = some place ↔
      ∃ parent name, files.target text = .ok (.name parent name false) ∧ lookUp parent name = .ok place := by
  unfold place?
  constructor
  · intro leads
    split at leads
    · rename_i parent name target
      refine ⟨parent, name, target, ?_⟩
      cases found : lookUp parent name with
      | error => simp [found, Except.toOption] at leads
      | ok => simpa [found, Except.toOption] using leads
    · cases leads
  · rintro ⟨parent, name, target, found⟩
    simp [target, found, Except.toOption]

/-- Two states of the files have the same directories. -/
structure SameDirectories (files other : Files) : Prop where
  workingDirectory : files.workingDirectory = other.workingDirectory
  isDirectory : ∀ location, files.isDirectory location = other.isDirectory location

theorem SameDirectories.refl (files : Files) : files.SameDirectories files := ⟨rfl, fun _ => rfl⟩

theorem SameDirectories.trans {files between other : Files} (one : files.SameDirectories between)
    (two : between.SameDirectories other) : files.SameDirectories other :=
  ⟨one.workingDirectory.trans two.workingDirectory, fun location =>
    (one.isDirectory location).trans (two.isDirectory location)⟩

section

variable {files other : Files} (same : files.SameDirectories other)

include same

theorem toOption_enter_congr (location : Location) (part : PathPart) :
    (files.enter location part).toOption = (other.enter location part).toOption := by
  cases part with
  | same => rfl
  | parent => rfl
  | name name =>
    simp only [enter]
    rcases lookUp location name with error | inner
    · rfl
    · simp only [bind, Except.bind, same.isDirectory inner]
      split
      · rfl
      -- where there is no directory, only the reason differs
      · split <;> split <;> rfl

theorem toOption_follow_congr (slashed : Bool) (location : Location) (parts : List PathPart) :
    (files.follow slashed location parts).toOption = (other.follow slashed location parts).toOption := by
  induction parts generalizing location with
  | nil => rfl
  | cons part rest ih =>
    have entered := toOption_enter_congr same location part
    have further : (files.enter location part >>= fun inner => files.follow slashed inner rest).toOption =
        (other.enter location part >>= fun inner => other.follow slashed inner rest).toOption := by
      cases one : files.enter location part <;> cases two : other.enter location part <;>
        simp only [one, two, Except.toOption, reduceCtorEq, Option.some.injEq] at entered
      · rfl
      · subst entered
        exact ih _
    unfold follow
    split <;> simp_all

/-- Where a path leads depends on the directories only. -/
theorem place?_congr (text : String) : files.place? text = other.place? text := by
  have targets : (files.target text).toOption = (other.target text).toOption := by
    unfold target
    split
    · rfl
    · split
      · rfl
      · split
        · rfl
        · rw [same.workingDirectory]
          exact toOption_follow_congr same _ _ _
  unfold place?
  cases one : files.target text <;> cases two : other.target text <;>
    simp_all [Except.toOption]

end

/-! ### Putting entries -/

@[simp] theorem put_entry? (files : Files) (place other : Location) (entry : Option FileEntry) :
    Files.entry? (files.put place entry) other = if other = place then entry else files.entry? other := rfl

@[simp] theorem put_put (files : Files) (place : Location) (first second : Option FileEntry) :
    (files.put place first).put place second = files.put place second := by
  simp only [put, Files.mk.injEq, and_true]
  funext other
  split <;> rfl

/-- Putting or removing anything but a directory leaves the directories as they are. -/
theorem sameDirectories_put {files : Files} {place : Location} {entry : Option FileEntry}
    (free : files.isDirectory place = false) (plain : ∀ new, entry = some new → new.kind ≠ .directory) :
    files.SameDirectories (files.put place entry) where
  workingDirectory := rfl
  isDirectory := by
    intro location
    by_cases here : location = place
    · subst here
      have outside : location.isPrefixOf files.workingDirectory = false := by
        rw [isDirectory, Bool.or_eq_false_iff] at free
        exact free.1
      have still : (files.put location entry).isDirectory location = false := by
        unfold isDirectory
        rw [show (files.put location entry).workingDirectory = files.workingDirectory from rfl, outside, put_entry?,
          if_pos rfl, Bool.false_or]
        split
        · exact absurd rfl (plain _ rfl)
        · rfl
      rw [free, still]
    · simp [isDirectory, put, here]

theorem isDirectory_of_free {files : Files} {place : Location} (free : files.hasEntry place = false) :
    files.isDirectory place = false := by
  rw [hasEntry, Bool.or_eq_false_iff] at free
  exact free.1

theorem hasEntry_of_entry {files : Files} {place : Location} (there : files.entry? place ≠ none) :
    files.hasEntry place = true := by
  simp [hasEntry, Option.isSome_iff_ne_none, there]

theorem entry?_of_free {files : Files} {place : Location} (free : files.hasEntry place = false) :
    files.entry? place = none := by
  rw [hasEntry, Bool.or_eq_false_iff] at free
  simpa using free.2

end Files

/-! ### Calls -/

namespace Host

/-- The next call is carried out: nothing is planned for it. -/
def CarriesOut (host : Host) : Prop := host.faults.head?.join = none

/-- The host once a call had its turn that changed nothing. -/
def spent (host : Host) : Host := { host with faults := host.faults.tail }

@[simp] theorem spent_files (host : Host) : host.spent.files = host.files := (rfl)

@[simp] theorem put_files (host : Host) (place : Location) (entry : Option FileEntry) :
    (host.put place entry).files = host.files.put place entry := rfl

section

variable {α : Type} {host after : Host} {carryOut : Host → Except SystemError (α × Host)}

theorem call_of_carriesOut (carriedOut : host.CarriesOut) :
    host.call carryOut =
      match carryOut host.spent with
      | .error error => (.error error, host.spent)
      | .ok (result, after) => (.ok result, after) := by
  unfold CarriesOut at carriedOut
  simp only [call, carriedOut]
  rfl

theorem call_eq_ok {result : α} (succeeds : host.call carryOut = (.ok result, after)) :
    carryOut host.spent = .ok (result, after) := by
  simp only [call] at succeeds
  split at succeeds
  · cases succeeds
  · split at succeeds
    · cases succeeds
    · rename_i done
      cases succeeds
      exact done

theorem carriesOut_of_call_eq_ok {result : α} (succeeds : host.call carryOut = (.ok result, after)) :
    host.CarriesOut := by
  simp only [call] at succeeds
  split at succeeds
  · cases succeeds
  · rename_i carriedOut
    exact carriedOut

/-- A call that fails changes nothing. -/
theorem call_eq_error {error : SystemError} (fails : host.call carryOut = (.error error, after)) :
    after = host.spent := by
  simp only [call] at fails
  split at fails
  · cases fails
    rfl
  · split at fails
    · cases fails
      rfl
    · cases fails

end

/-- A new file with nothing in it. -/
def emptyFile : FileEntry := { kind := .file [], mode := fileMode }

section

variable {host after : Host} {text : String} {place : Location}

theorem createNew_of_leads (carriedOut : host.CarriesOut) (leads : host.files.place? text = some place) :
    host.createNew text =
      if host.files.hasEntry place then (.error .alreadyExists, host.spent)
      else (.ok (), host.spent.put place (some emptyFile)) := by
  obtain ⟨parent, name, target, found⟩ := Files.place?_eq_some_iff.mp leads
  simp only [createNew, call_of_carriesOut carriedOut, spent_files, target, found, bind, Except.bind]
  by_cases taken : host.files.hasEntry place = true
  · simp only [if_pos taken]
  · simp only [if_neg taken]
    rfl

theorem createNew_eq_ok (creates : host.createNew text = (.ok (), after)) :
    ∃ place, host.files.place? text = some place ∧ host.files.hasEntry place = false ∧
      after = host.spent.put place (some emptyFile) := by
  obtain ⟨target, reached, done⟩ := exists_of_bind_eq_ok (call_eq_ok creates)
  obtain directory | ⟨parent, name, slashed⟩ := target
  · cases done
  · cases slashed with
    | true => cases done
    | false =>
      obtain ⟨place, found, done⟩ := exists_of_bind_eq_ok done
      have leads : host.files.place? text = some place := Files.place?_eq_some_iff.mpr ⟨parent, name, reached, found⟩
      split at done
      · cases done
      · rename_i free
        cases done
        exact ⟨place, leads, by simpa using free, rfl⟩

theorem write_of_file {contents old : List UInt8} {mode : Nat} (carriedOut : host.CarriesOut)
    (leads : host.files.place? text = some place) (plain : host.files.isDirectory place = false)
    (there : host.files.entry? place = some { kind := .file old, mode }) :
    host.write text contents = (.ok (), host.spent.put place (some { kind := .file contents, mode })) := by
  obtain ⟨parent, name, target, found⟩ := Files.place?_eq_some_iff.mp leads
  simp [write, call_of_carriesOut carriedOut, target, found, plain, there, bind, Except.bind, pure, Except.pure]

theorem remove_of_entry (carriedOut : host.CarriesOut) (leads : host.files.place? text = some place)
    (plain : host.files.isDirectory place = false) (there : host.files.entry? place ≠ none) :
    host.remove text = (.ok (), host.spent.put place none) := by
  obtain ⟨parent, name, target, found⟩ := Files.place?_eq_some_iff.mp leads
  have present : host.files.hasEntry place = true := Files.hasEntry_of_entry there
  simp [remove, call_of_carriesOut carriedOut, target, found, plain, present, bind, Except.bind, pure, Except.pure]

theorem remove_eq_ok (removes : host.remove text = (.ok (), after)) :
    ∃ place, host.files.place? text = some place ∧ host.files.isDirectory place = false ∧
      after = host.spent.put place none := by
  obtain ⟨target, reached, done⟩ := exists_of_bind_eq_ok (call_eq_ok removes)
  obtain directory | ⟨parent, name, slashed⟩ := target
  · cases done
  · obtain ⟨place, found, changed⟩ := exists_of_bind_eq_ok done
    split at changed
    · cases changed
    · rename_i plain
      split at changed
      · cases changed
      · split at changed
        · cases changed
        · rename_i unslashed
          obtain rfl : slashed = false := by simpa using unslashed
          cases changed
          exact ⟨place, Files.place?_eq_some_iff.mpr ⟨parent, name, reached, found⟩, by simpa using plain, rfl⟩

/-- A new socket. -/
def socketEntry : FileEntry := { kind := .socket, mode := directoryMode }

/-- A socket is bound without a file, or is put where there was nothing. -/
theorem bindUnix_eq_ok (binds : host.bindUnix text = (.ok (), after)) :
    after = host.spent ∧ (text = "" ∨ text.toList.contains '\x00' = true) ∨
      ∃ place, host.files.place? text = some place ∧ host.files.hasEntry place = false ∧
        after = host.spent.put place (some socketEntry) := by
  have done := call_eq_ok binds
  split at done
  · rename_i nameless
    cases done
    exact .inl ⟨rfl, .inl nameless⟩
  · split at done
    · rename_i abstract_
      split at done
      · cases done
      · cases done
        have member : '\x00' ∈ text.toList := List.mem_of_mem_head? (Option.mem_def.mpr abstract_)
        exact .inl ⟨rfl, .inr (by simpa using member)⟩
    · split at done
      · cases done
      · split at done
        · cases done
        · obtain ⟨target, reached, done⟩ := exists_of_bind_eq_ok done
          obtain directory | ⟨parent, name, slashed⟩ := target
          · cases done
          · obtain ⟨place, found, changed⟩ := exists_of_bind_eq_ok done
            split at changed
            · cases changed
            · rename_i free
              split at changed
              · cases changed
              · rename_i unslashed
                obtain rfl : slashed = false := by simpa using unslashed
                have leads : host.files.place? text = some place :=
                  Files.place?_eq_some_iff.mpr ⟨parent, name, reached, found⟩
                cases changed
                exact .inr ⟨place, leads, by simpa using free, rfl⟩

theorem setMode_eq_ok {mode : Nat} (sets : host.setMode text mode = (.ok (), after)) :
    ∃ place, host.files.find text = .ok place ∧
      after = host.spent.put place (Option.map (fun entry => { entry with mode }) <| host.files.entry? place) := by
  obtain ⟨place, found, done⟩ := exists_of_bind_eq_ok (call_eq_ok sets)
  cases done
  exact ⟨place, found, rfl⟩

theorem setOwner_files {uid gid : Option UInt32} (sets : host.setOwner text uid gid = (.ok (), after)) :
    after.files = host.files := by
  obtain ⟨place, found, done⟩ := exists_of_bind_eq_ok (call_eq_ok sets)
  cases done
  rfl

end

/-- Binding a listening socket to an address does nothing to the files. -/
theorem bindTcp_files (host : Host) (socket : SocketAddress) : (host.bindTcp socket).2.files = host.files := by
  rcases went : host.bindTcp socket with ⟨error | _, after⟩
  · rw [call_eq_error went, spent_files]
  · have done := call_eq_ok went
    split at done
    · cases done
    · split at done
      · cases done
        rfl
      · split at done
        · cases done
        · cases done
          rfl

end Host

end NodeBus
