import AddressWatch.Service

/-!
The program from its command line: it prints something and ends, fails to start, or watches until a
signal comes.
-/

namespace AddressWatch

/-- What a command line comes to. -/
inductive Launch where
  | printed (printout : CommandLine.Printout)
  | failed (failure : Service.Failure)
  | watching (service : Service)

/-- What is seen of a program by some time. -/
structure Observation where
  /-- Absent while the program is running. -/
  exitCode? : Option UInt8
  output : String := ""
  errors : String := ""
  log : List Log.Entry := []
  /-- The polls: only in these are tools run and requests sent. -/
  turns : List Watcher.Turn := []

variable {σ : Type}

/-- What is seen of a service by a time, in milliseconds from its start, if the signal comes. -/
def Service.observe (service : Service) (surroundings : Surroundings σ) (state : σ)
    (signal? : Option (Signal × Nat)) (time : Nat) : Observation :=
  let underWay := service.run surroundings time state
  let running : Observation :=
    { exitCode? := none
      log := (service.logBeforeSignal underWay).map Prod.snd
      turns := underWay.turns }
  match signal? with
  | none => running
  | some (signal, deadline) =>
      let run := service.run surroundings deadline state
      if run.ended ≤ time then
        { exitCode? := some 0, log := service.log run signal, turns := run.turns }
      else running

namespace Launch

def ofArguments (arguments : List String) (environment : Option String) : Launch :=
  match CommandLine.configure arguments environment with
  | .error ending => .printed ending.printout
  | .ok config =>
      match Service.ofConfig config with
      | .error failure => .failed failure
      | .ok service => .watching service

def observe (launch : Launch) (surroundings : Surroundings σ) (state : σ)
    (signal? : Option (Service.Signal × Nat)) (time : Nat) : Observation :=
  match launch with
  | printed printout =>
      { exitCode? := some printout.exitCode, output := printout.output, errors := printout.errors }
  | failed failure => { exitCode? := some failure.exitCode, log := failure.log }
  | watching service => service.observe surroundings state signal? time

end Launch

end AddressWatch
