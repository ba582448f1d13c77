import RpcTelemetry.Install.Script

/-!
# Installation happens once

Installations contend with each other, and with others who want to collect the log of the process.
An installation looks first whether it may and then writes the globals, the collector and its own
mark, each in its turn; the later writes could still be refused.

Results:
1. `Process.install_cases`: all that an installation comes to. If none of its checks fails, none of
   its writes does, so that a failed one has written nothing.
2. `Process.IsHeld`: once the collector is held, the mark tells by whom, and no attempt changes that
   (`Process.attemptAll_of_isHeld`).
3. `Process.installed_once`: the first attempt wins, and what all later ones are told.
-/

namespace RpcTelemetry

open Install (Answer)

/-- An attempt to take charge of the telemetry of a process. -/
inductive Attempt where
  /-- Installs a provider that is made for it. -/
  | install
  /-- Installs a provider that is there already. -/
  | installWith (provider : Nat)
  /-- Someone else wants to collect the log. -/
  | collect

namespace Attempt

/-- Whether an attempt is an installation. -/
def installs : Attempt → Bool
  | .collect => false
  | _ => true

/-- The providers that are made for an attempt. -/
def makes : Attempt → List Provider
  | .install => [.unexported]
  | _ => []

/-- The provider that an attempt installs, in a process with `count` providers. -/
def provider? (count : Nat) : Attempt → Option Nat
  | .install => some count
  | .installWith provider => some provider
  | .collect => none

end Attempt

namespace Process

/-- A process with more providers. -/
def withProviders (process : Process) (more : List Provider) : Process :=
  { process with world := { process.world with providers := process.world.providers ++ more } }

/-- Tries to install a provider. -/
def tryInstall (process : Process) (provider : Nat) : Process × Answer :=
  match process.install provider with
  | (process, .ok ()) => (process, .installed)
  | (process, .error error) => (process, .refused error)

/-- Makes one attempt. -/
def attempt (process : Process) : Attempt → Process × Answer
  | .install =>
    let (world, provider) := process.world.addProvider .unexported
    { process with world }.tryInstall provider
  | .installWith provider => process.tryInstall provider
  | .collect =>
    let (process, worked) := process.setSubscriber .foreign
    (process, .flag worked)

/-- Makes attempts one after another. -/
def attemptAll : Process → List Attempt → List Answer × Process
  | process, [] => ([], process)
  | process, attempt :: rest =>
    let (process, answer) := process.attempt attempt
    let (answers, process) := process.attemptAll rest
    (answer :: answers, process)

/-- A process after an installation that was not refused. -/
def installedWith (process : Process) (provider : Nat) : Process :=
  { process with
    world := { process.world with
      globals := { process.world.globals with
        tracer := some provider
        propagator := TraceContext.propagator } }
    installed := true
    subscriber := .installed }

variable (process : Process)

/-- An installation is refused by one of its checks and leaves the process as it was, or it does all
that it has to do. -/
theorem install_cases (provider : Nat) :
    (process.installed = true ∧
        process.install provider = (process, .error .alreadyInstalled)) ∨
      (process.installed = false ∧ process.hasSubscriber = true ∧
        process.install provider = (process, .error .subscriberAlreadySet)) ∨
      (process.installed = false ∧ process.hasSubscriber = false ∧
        process.install provider = (process.installedWith provider, .ok ())) := by
  cases marked : process.installed with
  | true =>
    refine .inl ⟨rfl, ?_⟩
    rw [install, if_pos marked]
  | false =>
    cases collected : process.hasSubscriber with
    | true =>
      refine .inr (.inl ⟨rfl, rfl, ?_⟩)
      rw [install, if_neg (by simp [marked]), if_pos collected]
    | false =>
      -- Nobody collects, so the collector can be set, and the mark is not there yet.
      have free : process.subscriber = .nobody := by
        simpa [hasSubscriber] using (Bool.or_eq_false_iff.1 collected).2
      refine .inr (.inr ⟨rfl, rfl, ?_⟩)
      rw [install, if_neg (by simp [marked]), if_neg (by simp [collected])]
      simp [setSubscriber, setInstalled, setPropagator, setTracer, installedWith, free, marked]

/-- Each installation makes its provider, if it brings none, and tries to install it. -/
theorem attempt_of_provider? {attempt : Attempt} {provider : Nat}
    (brings : attempt.provider? process.world.providers.length = some provider) :
    process.attempt attempt = (process.withProviders attempt.makes).tryInstall provider := by
  cases attempt with
  | install =>
    obtain rfl := Option.some.inj brings
    rfl
  | installWith own =>
    obtain rfl := Option.some.inj brings
    simp only [Process.attempt, withProviders, Attempt.makes, List.append_nil]
  | collect => cases brings

theorem exists_provider? {attempt : Attempt} (installs : attempt.installs = true) (count : Nat) :
    ∃ provider, attempt.provider? count = some provider := by
  cases attempt with
  | install => exact ⟨_, rfl⟩
  | installWith own => exact ⟨_, rfl⟩
  | collect => cases installs

/-- An installation is refused and leaves the process as it was, but for a provider made for it, or
it does all that it has to do. -/
theorem attempt_cases {attempt : Attempt} {provider : Nat}
    (brings : attempt.provider? process.world.providers.length = some provider) :
    ((∃ error, (process.attempt attempt).2 = .refused error) ∧
        (process.attempt attempt).1 = process.withProviders attempt.makes) ∨
      (process.hasSubscriber = false ∧ (process.attempt attempt).2 = .installed ∧
        (process.attempt attempt).1 =
          (process.withProviders attempt.makes).installedWith provider) := by
  rw [process.attempt_of_provider? brings, tryInstall]
  rcases (process.withProviders attempt.makes).install_cases provider with
    ⟨-, refused⟩ | ⟨-, -, refused⟩ | ⟨-, free, done⟩
  · rw [refused]
    exact .inl ⟨⟨_, rfl⟩, rfl⟩
  · rw [refused]
    exact .inl ⟨⟨_, rfl⟩, rfl⟩
  · rw [done]
    exact .inr ⟨free, rfl, rfl⟩

/-! ## After the first attempt -/

/-- Someone collects the log globally, and the process is marked as installed exactly if that is the
installation. -/
structure IsHeld (holder : Subscriber) : Prop where
  someone : holder ≠ .nobody
  subscriber : process.subscriber = holder
  installed : process.installed = true ↔ holder = .installed

end Process

/-- What an installation is told when the collector is held. -/
def Subscriber.refusal : Subscriber → InstallError
  | .installed => .alreadyInstalled
  | _ => .subscriberAlreadySet

/-- What an attempt is told when the collector is held. -/
def Attempt.lateAnswer (holder : Subscriber) (attempt : Attempt) : Answer :=
  if attempt.installs then .refused holder.refusal else .flag false

namespace Process

variable {process : Process} {holder : Subscriber}

theorem withProviders_withProviders (first second : List Provider) :
    (process.withProviders first).withProviders second =
      process.withProviders (first ++ second) := by
  simp only [withProviders, List.append_assoc]

theorem IsHeld.hasSubscriber (held : process.IsHeld holder) : process.hasSubscriber = true := by
  simp [Process.hasSubscriber, held.subscriber, held.someone]

/-- Whoever holds the collector, an installation is refused. -/
theorem IsHeld.install (held : process.IsHeld holder) (provider : Nat) :
    process.install provider = (process, .error holder.refusal) := by
  rcases process.install_cases provider with ⟨marked, refused⟩ | ⟨unmarked, -, refused⟩ |
    ⟨-, free, -⟩
  · rw [refused, held.installed.1 marked]
    rfl
  · have other : holder ≠ .installed := fun same => by
      rw [held.installed.2 same] at unmarked
      cases unmarked
    rw [refused, Subscriber.refusal]
    exact other
  · rw [held.hasSubscriber] at free
    cases free

/-- Every attempt is refused then, and adds no more than a provider. -/
theorem IsHeld.attempt (held : process.IsHeld holder) (attempt : Attempt) :
    process.attempt attempt =
      (process.withProviders attempt.makes, attempt.lateAnswer holder) := by
  have heldStill : (process.withProviders attempt.makes).IsHeld holder :=
    ⟨held.someone, held.subscriber, held.installed⟩
  cases installs : attempt.installs with
  | true =>
    obtain ⟨provider, brings⟩ := exists_provider? installs process.world.providers.length
    rw [process.attempt_of_provider? brings, tryInstall, heldStill.install, Attempt.lateAnswer,
      if_pos installs]
  | false =>
    cases attempt with
    | collect =>
      rw [Process.attempt, setSubscriber, held.subscriber, if_neg held.someone]
      simp only [withProviders, Attempt.makes, List.append_nil]
      rfl
    | _ => cases installs

/-- So are attempts one after the other. -/
theorem attemptAll_of_isHeld (held : process.IsHeld holder) (attempts : List Attempt) :
    process.attemptAll attempts = (attempts.map (·.lateAnswer holder),
      process.withProviders (attempts.flatMap Attempt.makes)) := by
  induction attempts generalizing process with
  | nil => simp [attemptAll, withProviders]
  | cons attempt rest ih =>
    have heldStill : (process.withProviders attempt.makes).IsHeld holder :=
      ⟨held.someone, held.subscriber, held.installed⟩
    rw [attemptAll, held.attempt]
    simp only [ih heldStill, withProviders_withProviders, List.map_cons, List.flatMap_cons]

variable (process)

theorem length_attemptAll (attempts : List Attempt) :
    (process.attemptAll attempts).1.length = attempts.length := by
  induction attempts generalizing process with
  | nil => rfl
  | cons attempt rest ih => exact congrArg Nat.succ (ih _)

theorem attemptAll_append (first second : List Attempt) :
    process.attemptAll (first ++ second) =
      ((process.attemptAll first).1 ++ ((process.attemptAll first).2.attemptAll second).1,
        ((process.attemptAll first).2.attemptAll second).2) := by
  induction first generalizing process with
  | nil => rfl
  | cons attempt rest ih => simp only [List.cons_append, attemptAll, ih]

/-! ## From the first attempt on -/

variable {process} (unmarked : process.installed = false) (free : process.hasSubscriber = false)

include unmarked free

/-- The run of attempts of which the first is an installation. -/
theorem attemptAll_of_provider? {first : Attempt} {provider : Nat}
    (brings : first.provider? process.world.providers.length = some provider)
    (rest : List Attempt) :
    process.attemptAll (first :: rest) =
      (.installed :: rest.map (·.lateAnswer .installed),
        ((process.withProviders first.makes).installedWith provider).withProviders
          (rest.flatMap Attempt.makes)) := by
  have made : process.attempt first =
      ((process.withProviders first.makes).installedWith provider, .installed) := by
    rw [process.attempt_of_provider? brings, tryInstall]
    rcases (process.withProviders first.makes).install_cases provider with
      ⟨marked, -⟩ | ⟨-, collected, -⟩ | ⟨-, -, done⟩
    · exact absurd (marked.symm.trans unmarked) (by decide)
    · exact absurd (collected.symm.trans free) (by decide)
    · rw [done]
  have held : ((process.withProviders first.makes).installedWith provider).IsHeld .installed :=
    ⟨by decide, rfl, iff_of_true rfl rfl⟩
  rw [attemptAll, made]
  simp only [attemptAll_of_isHeld held]

/-- The run of attempts of which the first is that of someone else. -/
theorem attemptAll_of_collect (rest : List Attempt) :
    process.attemptAll (.collect :: rest) =
      (.flag true :: rest.map (·.lateAnswer .foreign),
        { process with subscriber := .foreign }.withProviders (rest.flatMap Attempt.makes)) := by
  have nobody : process.subscriber = .nobody := by
    simpa [Process.hasSubscriber] using (Bool.or_eq_false_iff.1 free).2
  have made : process.attempt .collect = ({ process with subscriber := .foreign }, .flag true) := by
    rw [Process.attempt, Process.setSubscriber, if_pos nobody]
  have held : { process with subscriber := .foreign }.IsHeld .foreign :=
    ⟨by decide, rfl, iff_of_false (by simp [unmarked]) (by decide)⟩
  rw [attemptAll, made]
  simp only [attemptAll_of_isHeld held]

/-- After an attempt there is a collector. -/
theorem hasSubscriber_attemptAll {attempts : List Attempt} (some_attempt : attempts ≠ []) :
    (process.attemptAll attempts).2.hasSubscriber = true := by
  obtain ⟨first, rest, rfl⟩ := List.exists_cons_of_ne_nil some_attempt
  cases brings : first.provider? process.world.providers.length with
  | some provider =>
    rw [attemptAll_of_provider? unmarked free brings]
    simp [withProviders, installedWith, Process.hasSubscriber]
  | none =>
    cases first with
    | collect =>
      rw [attemptAll_of_collect unmarked free]
      simp [withProviders, Process.hasSubscriber]
    | _ => cases brings

/-- An attempt is an installation that succeeds exactly if it is an installation and comes first. -/
theorem installed_iff (attempts : List Attempt) (index : Nat) :
    (process.attemptAll attempts).1[index]? = some .installed ↔
      index = 0 ∧ ∃ first rest, attempts = first :: rest ∧ first.installs = true := by
  have late (holder : Subscriber) (rest : List Attempt) (index : Nat) :
      (rest.map (·.lateAnswer holder))[index]? ≠ some .installed := fun found => by
    obtain ⟨attempt, -, same⟩ := List.mem_map.1 (List.mem_of_getElem? found)
    unfold Attempt.lateAnswer at same
    split at same <;> cases same
  cases attempts with
  | nil => simp [attemptAll]
  | cons first rest =>
    cases installs : first.installs with
    | true =>
      obtain ⟨provider, brings⟩ := exists_provider? installs process.world.providers.length
      rw [attemptAll_of_provider? unmarked free brings]
      cases index with
      | zero => exact iff_of_true rfl ⟨rfl, first, rest, rfl, installs⟩
      | succ index => exact iff_of_false (late _ _ _) fun both => by cases both.1
    | false =>
      have other : ¬∃ first' rest', first :: rest = first' :: rest' ∧ first'.installs = true := by
        rintro ⟨first', rest', same, installs'⟩
        rw [← (List.cons.inj same).1, installs] at installs'
        cases installs'
      cases first with
      | collect =>
        rw [attemptAll_of_collect unmarked free]
        cases index with
        | zero => exact iff_of_false (fun same => by cases same) fun both => other both.2
        | succ index => exact iff_of_false (late _ _ _) fun both => other both.2
      | _ => cases installs

/-- Of attempts in a process where nothing was installed and nobody collects, the first one wins,
and if that is an installation, it is the only one that succeeds: its provider and the trace-context
propagator are the global ones from then on, and every later installation is told so. If someone
else was first, every installation is told that, and the globals stay what they were. An
installation that fails leaves nothing behind but the provider that was made for it. -/
theorem installed_once (attempts : List Attempt) :
    let run := process.attemptAll attempts
    let told (error : InstallError) (attempt : Attempt) : Answer :=
      if attempt.installs then .refused error else .flag false
    (∀ index, run.1[index]? = some .installed ↔
        index = 0 ∧ ∃ first rest, attempts = first :: rest ∧ first.installs = true) ∧
      (∀ first rest provider, attempts = first :: rest →
        first.provider? process.world.providers.length = some provider →
        run.1 = .installed :: rest.map (told .alreadyInstalled) ∧
          run.2.world.globals = { process.world.globals with
            tracer := some provider
            propagator := TraceContext.propagator } ∧
          run.2.subscriber = .installed) ∧
      (∀ rest, attempts = .collect :: rest →
        run.1 = .flag true :: rest.map (told .subscriberAlreadySet) ∧
          run.2.world.globals = process.world.globals ∧ run.2.subscriber = .foreign) ∧
      ∀ before attempt after, attempts = before ++ attempt :: after → attempt.installs = true →
        let earlier := (process.attemptAll before).2
        let made := earlier.attempt attempt
        run.1[before.length]? = some made.2 ∧
          ((∃ error, made.2 = .refused error) ∧ before ≠ [] ∧
              made.1 = { earlier with world := { earlier.world with
                providers := earlier.world.providers ++ attempt.makes } } ∨
            made.2 = .installed ∧ before = [] ∧
              ∃ provider, attempt.provider? earlier.world.providers.length = some provider ∧
                made.1 = { earlier with
                  world := { earlier.world with
                    providers := earlier.world.providers ++ attempt.makes
                    globals := { earlier.world.globals with
                      tracer := some provider
                      propagator := TraceContext.propagator } }
                  installed := true
                  subscriber := .installed }) := by
  intro run told
  refine ⟨installed_iff unmarked free attempts, ?_, ?_, ?_⟩
  · rintro first rest provider rfl brings
    have same := attemptAll_of_provider? unmarked free brings rest
    exact ⟨congrArg Prod.fst same, congrArg (·.2.world.globals) same,
      congrArg (·.2.subscriber) same⟩
  · rintro rest rfl
    have same := attemptAll_of_collect unmarked free rest
    exact ⟨congrArg Prod.fst same, congrArg (·.2.world.globals) same,
      congrArg (·.2.subscriber) same⟩
  · rintro before attempt after rfl installs earlier made
    obtain ⟨provider, brings⟩ := exists_provider? installs earlier.world.providers.length
    have answered : run.1[before.length]? = some made.2 := by
      simp only [run, attemptAll_append]
      rw [← process.length_attemptAll before, List.getElem?_append_right (Nat.le_refl _),
        Nat.sub_self]
      rfl
    refine ⟨answered, ?_⟩
    rcases earlier.attempt_cases brings with ⟨⟨error, refused⟩, unchanged⟩ |
      ⟨nobody, succeeded, changed⟩
    · refine .inl ⟨⟨error, refused⟩, ?_, unchanged⟩
      -- The first attempt is not refused.
      rintro rfl
      have first := (installed_iff unmarked free (attempt :: after) 0).2
        ⟨rfl, attempt, after, rfl, installs⟩
      cases (refused.symm.trans (Option.some.inj (answered.symm.trans first)))
    · refine .inr ⟨succeeded, ?_, provider, brings, changed⟩
      refine Classical.not_not.1 fun some_attempt => ?_
      have collected := hasSubscriber_attemptAll unmarked free some_attempt
      exact absurd (nobody.symm.trans collected) (by decide)

omit unmarked free

/-- An installation with a provider that is there already, then someone else, then an installation
that makes its provider. -/
theorem installed_once_of_three :
    let started := Process.fresh.withProviders [.ofSettings .never .standard]
    let run := started.attemptAll [.installWith 0, .collect, .install]
    run.1 = [.installed, .flag false, .refused .alreadyInstalled] ∧
      run.2.world.globals = ⟨some 0, none, TraceContext.propagator⟩ := by
  intro started run
  obtain ⟨-, first, -⟩ := installed_once (show started.installed = false from rfl) rfl
    [.installWith 0, .collect, .install]
  obtain ⟨answers, globals, -⟩ := first _ _ _ rfl rfl
  exact ⟨answers, globals⟩

end Process

end RpcTelemetry
