import AddressWatch.Proofs.Resolver.Query
import AddressWatch.Proofs.Watcher.Counting

/-!
# Where published addresses come from

An address that is sent was printed in the same poll by a tool that succeeded.  A poll whose tool
fails, is killed or takes too long sends nothing.
-/

namespace AddressWatch.Watcher

/-- Whatever is done with a watcher over a resolver and however its hosts change: each update belongs
to a poll, and its address is a contiguous piece of what the tool of that poll has printed, which exits
with code zero in time.  A poll whose tool does not do so sends nothing. -/
theorem sent_addresses_are_printed (watcher : Watcher) (resolver : Resolver) (clientName : String)
    (hosts : Nat → Machine) (answers : Nat → Record → Act Outcome) (operations : List Operation) :
    let reports := ((⟨watcher, 0⟩ : Session Nat).performAll
      (World.ofHosts resolver clientName hosts answers) operations).1
    let attempts := reports.flatMap Report.attempts
    attempts.filterMap id = reports.flatMap Report.updates ∧
    (∀ index update, attempts[index]? = some (some update) →
      ∃ strategy behaviour, resolver.ran? (hosts index) = some (strategy, behaviour) ∧
        behaviour.Succeeds resolver.limit ∧
        update.record.value.toList <:+: Text.Utf8.decode behaviour.output) ∧
    ∀ index, (∀ strategy behaviour, resolver.ran? (hosts index) = some (strategy, behaviour) →
      ¬ behaviour.Succeeds resolver.limit) → attempts[index]?.join = none := by
  intro reports attempts
  have counts := World.countsPolls_ofHosts resolver clientName hosts answers
  have printed (index : Nat) (update : Update) (sent : attempts[index]? = some (some update)) :
      ∃ strategy behaviour, resolver.ran? (hosts index) = some (strategy, behaviour) ∧
        behaviour.Succeeds resolver.limit ∧
        update.record.value.toList <:+: Text.Utf8.decode behaviour.output := by
    have answered := (counts.answered_of_attempts sent).1
    rw [Nat.zero_add] at answered
    obtain ⟨strategy, behaviour, ran, succeeds, parsed⟩ :=
      (resolver.result_current_eq_ok_iff (hosts index) _).mp answered
    exact ⟨strategy, behaviour, ran, succeeds, Resolver.isInfix_of_parse?_decode parsed⟩
  refine ⟨Report.filterMap_flatMap_attempts reports, printed, ?_⟩
  intro index failed
  cases sent : attempts[index]?.join with
  | none => rfl
  | some update =>
      obtain ⟨strategy, behaviour, ran, succeeds, _⟩ :=
        printed index update (Option.join_eq_some_iff.mp sent)
      exact absurd succeeds (failed strategy behaviour ran)

def officeWatcher : Watcher := ⟨officeSettings, by decide, "", .empty⟩

/-- What a tool does that prints some lines at once. -/
def printing (lines : String) (ending : Machine.Ending) : Machine.Behaviour where
  output := lines.toList.map fun char => UInt8.ofNat char.toNat
  errors := []
  ending := ending
  duration := .ofSeconds 1

/-- A host on which one tool is installed. -/
def hostWith (tool : String) (behaviour : Machine.Behaviour) : Machine where
  files := ⟨[(["bin"], .directory), (["bin", tool], .file 0o755 (.program behaviour))], []⟩
  path := some "/bin"

/-- The first tool succeeds, the second one fails, another one succeeds, and the last is killed. -/
def changingHosts (index : Nat) : Machine :=
  match index with
  | 0 => hostWith "ip" (printing "    inet6 2001:db8::1/64 scope global\n" (.exited 0))
  | 1 => hostWith "ip" (printing "    inet6 2001:db8::2/64 scope global\n" (.exited 1))
  | 2 => hostWith "ifconfig" (printing "\tinet6 2001:db8::3 prefixlen 64\n" (.exited 0))
  | _ => hostWith "ip" (printing "    inet6 2001:db8::4/64 scope global\n" .killed)

theorem sent_addresses_are_printed_by_changing_hosts :
    let reports := ((⟨officeWatcher, 0⟩ : Session Nat).performAll
      (World.ofHosts (.ofConfig officeSettings) "rest" changingHosts fun _ _ => .done (.applied 200))
      [.poll, .poll, .leave, .poll, .poll]).1
    reports.flatMap Report.attempts = [
      some ⟨officeWatcher.recordFor "2001:db8::1", some (.applied 200)⟩, none,
      some ⟨officeWatcher.recordFor "2001:db8::3", some (.applied 200)⟩, none] ∧
    ∃ strategy behaviour,
      (Resolver.ofConfig officeSettings).ran? (changingHosts 2) = some (strategy, behaviour) ∧
      behaviour.Succeeds (Resolver.ofConfig officeSettings).limit ∧
      "2001:db8::3".toList <:+: Text.Utf8.decode behaviour.output := by
  intro reports
  have attempts : reports.flatMap Report.attempts = [
      some ⟨officeWatcher.recordFor "2001:db8::1", some (.applied 200)⟩, none,
      some ⟨officeWatcher.recordFor "2001:db8::3", some (.applied 200)⟩, none] := by
    decide +kernel
  have printed := (sent_addresses_are_printed officeWatcher (.ofConfig officeSettings) "rest"
    changingHosts (fun _ _ => .done (.applied 200)) [.poll, .poll, .leave, .poll, .poll]).2.1
  have third : (reports.flatMap Report.attempts)[2]? =
      some (some ⟨officeWatcher.recordFor "2001:db8::3", some (.applied 200)⟩) := by
    rw [attempts]
    rfl
  exact ⟨attempts, printed 2 _ third⟩

end AddressWatch.Watcher
