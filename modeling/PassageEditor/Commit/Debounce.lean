/-!
# Delayed commits

A text that is edited now and written to its target after a quiet time.  Each edit takes the place of the
write that waits and starts the quiet time anew; so does a new target.  A text from outside is taken over
only while no write waits.
-/

namespace PassageEditor

/-- A write that waits for its deadline. -/
structure Pending (τ : Type) where
  text : String
  target : τ
  deadline : Nat
  deriving DecidableEq, Repr

structure Draft (τ : Type) where
  /-- The text as it was edited last. -/
  text : String
  target : τ
  /-- The quiet time. -/
  delay : Nat
  pending : Option (Pending τ)
  deriving DecidableEq, Repr

namespace Draft

variable {τ : Type}

def ofText (text : String) (target : τ) (delay : Nat) : Draft τ := ⟨text, target, delay, none⟩

def isPending (d : Draft τ) : Bool := d.pending.isSome

def deadline? (d : Draft τ) : Option Nat := d.pending.map (·.deadline)

/-- Records an edit. -/
def edit (d : Draft τ) (text : String) (now : Nat) : Draft τ :=
  { d with text := text, pending := some ⟨text, d.target, now + d.delay⟩ }

/-- Points the draft, and a write that waits, to a target; tells whether it is a new one. -/
def retarget [DecidableEq τ] (d : Draft τ) (target : τ) (now : Nat) : Bool × Draft τ :=
  if d.target = target then (false, d)
  else
    (true, { d with target := target, pending := d.pending.map fun p => ⟨p.text, target, now + d.delay⟩ })

/-- Takes over a text from outside unless a write waits; tells whether the text has changed. -/
def adopt (d : Draft τ) (text : String) : Bool × Draft τ :=
  if d.isPending || d.text = text then (false, d) else (true, { d with text := text })

/-- The write that is due, if there is one, and the draft without it. -/
def poll (d : Draft τ) (now : Nat) : Option (Pending τ) × Draft τ :=
  match d.pending with
  | none => (none, d)
  | some p => if p.deadline ≤ now then (some p, { d with pending := none }) else (none, d)

/-- Drops the write that waits; tells whether there was one. -/
def drop (d : Draft τ) : Bool × Draft τ := (d.isPending, { d with pending := none })

/-- The state of the draft in words. -/
def describe (d : Draft τ) : String :=
  match d.pending with
  | none => "Idle"
  | some p => s!"Pending \x7b buffered_chars: {p.text.length}, deadline_ms: {p.deadline} \x7d"

end Draft

end PassageEditor
