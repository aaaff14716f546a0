import WorkerBindings.Text.Digits
import WorkerBindings.Text.Units

/-!
# Function identity

The identity of a function is a 32-bit fingerprint of its name, its script file and its entry point.
Each text is folded over its UTF-16 units, and the texts that are present are folded together in
their order. It is a correlation number: different functions may share one.
-/

namespace WorkerBindings.Identity

/-- The factor of every step. -/
def multiplier : UInt32 := 31

/-- Where the fold over one text starts. -/
def textSeed : UInt32 := 23

/-- Where the fold over the texts starts. -/
def fieldsSeed : UInt32 := 17

/-- One step of either fold; numbers wrap around at 2^32. -/
def step (hash next : UInt32) : UInt32 :=
  hash * multiplier + next

/-- The fingerprint of one text. -/
def ofText (text : String) : UInt32 :=
  (Text.units text).foldl (fun hash unit => step hash (UInt32.ofNat unit)) textSeed

/-- The fingerprint of the texts that are present; there is none when all are absent. -/
def ofFields (name scriptFile entryPoint : Option String) : Option UInt32 :=
  match [name, scriptFile, entryPoint].filterMap id with
  | [] => none
  | present => some (present.foldl (fun hash text => step hash (ofText text)) fieldsSeed)

/-- The identity in decimal digits, as records carry it. -/
def textOfFields (name scriptFile entryPoint : Option String) : Option String :=
  (ofFields name scriptFile entryPoint).map fun hash => Text.ofNat hash.toNat

end WorkerBindings.Identity
