import FixturePlan.Warning

/-!
# Reports and passes

Two ways in which a computation can warn and fail.

A `Report` ends with a value or an error, and has collected warnings either way. A `Pass` walks along
a list with a state that survives a failure: the walk stops at the first element whose step fails,
and what the earlier steps did, and the failing step itself, is not undone.
-/

namespace FixturePlan

/-! ### Reports -/

/-- The outcome of a computation that warns and may fail. -/
structure Report (ε α : Type) where
  warnings : List Warning
  result : Except ε α

namespace Report

variable {ε ε' α β σ : Type}

def value (a : α) : Report ε α := ⟨[], .ok a⟩

def fail (e : ε) : Report ε α := ⟨[], .error e⟩

def warn (ws : List Warning) : Report ε Unit := ⟨ws, .ok ()⟩

def ofExcept (r : Except ε α) : Report ε α := ⟨[], r⟩

/-- Continue with the value of a report, if it has one. -/
def andThen (r : Report ε α) (f : α → Report ε β) : Report ε β :=
  match r.result with
  | .ok a => ⟨r.warnings ++ (f a).warnings, (f a).result⟩
  -- the warnings that came before a failure are kept
  | .error e => ⟨r.warnings, .error e⟩

instance : Monad (Report ε) where
  pure := value
  bind := andThen

def mapError (f : ε → ε') (r : Report ε α) : Report ε' α := ⟨r.warnings, r.result.mapError f⟩

/-- Apply a step to every element of a list, in order, until one fails. -/
def mapList (f : α → Report ε β) : List α → Report ε (List β)
  | [] => value []
  | a :: rest => (f a).andThen fun b => (mapList f rest).andThen fun bs => value (b :: bs)

end Report

/-! ### Passes -/

/-- The outcome of a step or of a whole pass: the state it leaves, its warnings, and why it stopped
early if it did. -/
structure Pass (ε σ : Type) where
  state : σ
  warnings : List Warning
  failure : Option ε

namespace Pass

variable {ε σ α : Type}

def done (s : σ) : Pass ε σ := ⟨s, [], none⟩

def noting (s : σ) (w : Warning) : Pass ε σ := ⟨s, [w], none⟩

def failing (s : σ) (e : ε) : Pass ε σ := ⟨s, [], some e⟩

/-- Walk along a list until a step fails. -/
def run (step : σ → α → Pass ε σ) : σ → List α → Pass ε σ
  | s, [] => done s
  | s, a :: rest =>
    match step s a with
    | ⟨s', ws, some e⟩ => ⟨s', ws, some e⟩
    | ⟨s', ws, none⟩ =>
      let r := run step s' rest
      ⟨r.state, ws ++ r.warnings, r.failure⟩

/-- The state of a pass as a value, if no step failed. -/
def toReport (p : Pass ε σ) : Report ε σ :=
  ⟨p.warnings, match p.failure with
    | none => .ok p.state
    | some e => .error e⟩

end Pass

end FixturePlan
