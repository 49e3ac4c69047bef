import Calculator.Globals

/-!
# The shared state of a program

The settings of a program are those that were written first: a request that comes later writes none,
and no request takes them away. A logger is set up after the settings only, so whoever finds no
settings finds no logger, and settings that are written together with a logger are never left without
it. A refused request leaves all as it was.

## Main statements

* `settings_serve`, `settings_serveAll`: the settings after one request and after many.
* `configured_serve`, `configured_serveAll`: there is no logger without settings.
* `refused_iff`, `serve_of_refused`: which requests are refused, and that nothing comes of them.
* `orderly_serveAll`: all of this for every sequence of requests.
-/
namespace Calculator

/-- The settings that a request writes, if there are none yet. -/
def Request.settings? : Request → Option Settings
  | .write settings | .writeAndStartLogger settings _ => some settings
  | .readOrWrite | .evaluate _ => some {}
  | .isWritten | .startLogger | .read | .debugging | .evaluateWith _ _ => none

def Response.refused : Response → Bool
  | .outcome (.error _) | .settings (.error _) => true
  | .outcome (.ok _) | .settings (.ok _) | .truth _ | .debugging _ | .result _ => false

namespace Globals

/-- There is a logger only if there are settings. -/
def Configured (globals : Globals) : Prop :=
  globals.logger.isSome = true → globals.settings.isSome = true

/-- The request comes too early or too late. -/
def Untimely (globals : Globals) : Request → Prop
  | .write _ | .writeAndStartLogger _ _ => globals.settings.isSome = true
  | .startLogger => globals.settings.isSome = false ∨ globals.logger.isSome = true
  | .read => globals.settings.isSome = false
  | .isWritten | .readOrWrite | .debugging | .evaluate _ | .evaluateWith _ _ => False

/-! ### One request -/

/-- A request can write the settings only where there are none. -/
theorem settings_serve (globals : Globals) (request : Request) :
    (globals.serve request).2.settings = globals.settings.or request.settings? := by
  obtain ⟨settings, logger⟩ := globals
  cases request with
  | write | readOrWrite | evaluate => cases settings <;> rfl
  | writeAndStartLogger => cases settings <;> cases logger <;> rfl
  | startLogger => cases settings <;> cases logger <;> rfl
  | isWritten | read | debugging | evaluateWith => exact Option.or_none.symm

theorem logger_serve {globals : Globals} {logger : Logger} (started : globals.logger = some logger)
    (request : Request) : (globals.serve request).2.logger = some logger := by
  obtain ⟨settings, _⟩ := globals
  cases started
  cases request with
  | write | writeAndStartLogger | startLogger | readOrWrite | evaluate => cases settings <;> rfl
  | isWritten | read | debugging | evaluateWith => rfl

/-- There is nothing yet, or settings alone, or settings and a logger. -/
theorem Configured.cases {globals : Globals} (configured : globals.Configured) :
    globals = {} ∨ (∃ settings, globals = ⟨some settings, none⟩) ∨
      ∃ settings logger, globals = ⟨some settings, some logger⟩ := by
  obtain ⟨settings, logger⟩ := globals
  cases settings with
  | some settings =>
    cases logger with
    | none => exact .inr (.inl ⟨settings, rfl⟩)
    | some logger => exact .inr (.inr ⟨settings, logger, rfl⟩)
  | none =>
    cases logger with
    | none => exact .inl rfl
    | some logger => cases configured rfl

theorem configured_serve {globals : Globals} (configured : globals.Configured) (request : Request) :
    (globals.serve request).2.Configured := by
  intro started
  rw [settings_serve]
  rcases configured.cases with rfl | ⟨settings, rfl⟩ | ⟨settings, logger, rfl⟩
  · -- a logger that is there now came with the settings
    cases request with
    | writeAndStartLogger => rfl
    | write | startLogger | readOrWrite | evaluate => cases started
    | isWritten | read | debugging | evaluateWith => cases started
  · rfl
  · rfl

theorem refused_iff {globals : Globals} (configured : globals.Configured) (request : Request) :
    (globals.serve request).1.refused = true ↔ globals.Untimely request := by
  rcases configured.cases with rfl | ⟨settings, rfl⟩ | ⟨settings, logger, rfl⟩ <;>
    cases request <;> simp [Untimely, serve, write, writeAndStartLogger, startLogger, read,
      readOrWrite, evaluate, Response.refused]

theorem serve_of_refused {globals : Globals} (configured : globals.Configured) {request : Request}
    (refused : (globals.serve request).1.refused = true) : (globals.serve request).2 = globals := by
  rcases configured.cases with rfl | ⟨settings, rfl⟩ | ⟨settings, logger, rfl⟩
  · cases request with
    | write | writeAndStartLogger | readOrWrite | evaluate => cases refused
    | isWritten | startLogger | read | debugging | evaluateWith => rfl
  · cases request with
    | startLogger => cases refused
    | write | writeAndStartLogger | readOrWrite | evaluate => rfl
    | isWritten | read | debugging | evaluateWith => rfl
  · cases request <;> rfl

/-- Settings and logger that are asked for together are both there afterwards. -/
theorem serve_writeAndStartLogger {globals : Globals} (configured : globals.Configured)
    (fresh : globals.settings = none) (settings : Settings) (format : ConsoleFormat) :
    globals.serve (.writeAndStartLogger settings format) =
      (.outcome (.ok ()), ⟨some settings, some ⟨settings.log, format⟩⟩) := by
  rcases configured.cases with rfl | ⟨settings, rfl⟩ | ⟨settings, logger, rfl⟩
  · rfl
  · cases fresh
  · cases fresh

/-- An evaluation by the shared settings writes the default ones if there are none. -/
theorem serve_evaluate (globals : Globals) (source : String) :
    (globals.serve (.evaluate source)).1 =
        .result (Calculator.evaluate source (globals.settings.getD {}).policies) ∧
      (globals.serve (.evaluate source)).2.settings = some (globals.settings.getD {}) := by
  obtain ⟨settings, logger⟩ := globals
  cases settings with
  | none => exact ⟨rfl, rfl⟩
  | some settings => exact ⟨rfl, rfl⟩

/-! ### Many requests -/

theorem serveAll_append (globals : Globals) (first second : List Request) :
    globals.serveAll (first ++ second) =
      ((globals.serveAll first).1 ++ ((globals.serveAll first).2.serveAll second).1,
        ((globals.serveAll first).2.serveAll second).2) := by
  induction first generalizing globals with
  | nil => rfl
  | cons request later ih =>
    simp only [List.cons_append, serveAll, ih]

/-- The settings after some requests are the first that were written. -/
theorem settings_serveAll (globals : Globals) (requests : List Request) :
    (globals.serveAll requests).2.settings =
      globals.settings.or (requests.findSome? Request.settings?) := by
  induction requests generalizing globals with
  | nil => exact Option.or_none.symm
  | cons request later ih =>
    simp only [serveAll]
    rw [ih, settings_serve, List.findSome?_cons, Option.or_assoc]
    cases request.settings? <;> rfl

theorem logger_serveAll {globals : Globals} {logger : Logger}
    (started : globals.logger = some logger) (requests : List Request) :
    (globals.serveAll requests).2.logger = some logger := by
  induction requests generalizing globals with
  | nil => exact started
  | cons request later ih => exact ih (logger_serve started request)

/-- There is never a logger without settings: this holds in the beginning and is kept by each
request. -/
theorem configured_serveAll {globals : Globals} (configured : globals.Configured)
    (requests : List Request) : (globals.serveAll requests).2.Configured := by
  induction requests generalizing globals with
  | nil => exact configured
  | cons request later ih => exact ih (configured_serve configured request)

/-- What holds of the shared state of a program after the requests `earlier`, and of the request
that comes next. -/
structure Orderly (earlier : List Request) (globals : Globals) : Prop where
  -- the settings are those that were written first
  first_written : globals.settings = earlier.findSome? Request.settings?
  -- settings and logger stay as they are, whatever is asked for later
  settings_kept : ∀ settings, globals.settings = some settings →
    ∀ later, (globals.serveAll later).2.settings = some settings
  logger_kept : ∀ logger, globals.logger = some logger →
    ∀ later, (globals.serveAll later).2.logger = some logger
  configured : globals.Configured
  refused_iff : ∀ request, (globals.serve request).1.refused = true ↔ globals.Untimely request
  unchanged : ∀ request, (globals.serve request).1.refused = true →
    (globals.serve request).2 = globals
  -- settings are never written without the logger that was asked for together with them
  started : ∀ settings format, globals.settings = none →
    (globals.serve (.writeAndStartLogger settings format)).2 =
      ⟨some settings, some ⟨settings.log, format⟩⟩
  isWritten_iff : (globals.serve .isWritten).1 = .truth true ↔
    ∃ request ∈ earlier, request.settings?.isSome = true
  evaluates : ∀ source,
    (globals.serve (.evaluate source)).1 =
        .result (Calculator.evaluate source (globals.settings.getD {}).policies) ∧
      (globals.serve (.evaluate source)).2.settings = some (globals.settings.getD {})

/-- Settings are written once and with all that belongs to them, in whatever order a program asks for
what, and however often it is refused. The answers to its requests are those of the single requests,
each in the state that the earlier ones leave. -/
theorem orderly_serveAll (earlier : List Request) :
    Orderly earlier (serveAll {} earlier).2 ∧
      ∀ request, serveAll {} (earlier ++ [request]) =
        ((serveAll {} earlier).1 ++ [((serveAll {} earlier).2.serve request).1],
          ((serveAll {} earlier).2.serve request).2) := by
  have configured : (serveAll {} earlier).2.Configured := configured_serveAll (by rintro ⟨⟩) earlier
  have first : (serveAll {} earlier).2.settings = earlier.findSome? Request.settings? :=
    settings_serveAll {} earlier
  refine ⟨?_, fun request => serveAll_append {} earlier [request]⟩
  constructor
  case first_written => exact first
  -- later requests are served from here on, so that the general lemmas on runs apply
  case settings_kept =>
    intro settings written later
    rw [settings_serveAll, written, Option.some_or]
  case logger_kept => exact fun logger started => logger_serveAll started
  case configured => exact configured
  case refused_iff => exact refused_iff configured
  case unchanged => exact fun request => serve_of_refused configured
  case started =>
    intro settings format fresh
    rw [serve_writeAndStartLogger configured fresh]
  case isWritten_iff =>
    have answer : ((serveAll {} earlier).2.serve .isWritten).1 =
        .truth (earlier.findSome? Request.settings?).isSome := by
      rw [← first]
      rfl
    rw [answer, Response.truth.injEq, List.findSome?_isSome_iff]
  case evaluates => exact serve_evaluate _

-- The settings are the default ones here, so the logger that comes with others is refused.
example : (serveAll {} [.evaluate "1", .writeAndStartLogger .base .json, .startLogger]).2 =
    ⟨some {}, some ⟨{}, .pretty⟩⟩ := rfl

end Globals
end Calculator
