/-! # Durations

A `Duration` is a length of time in nanoseconds. The timers of the runtime are coarser: they go off
at whole milliseconds, and not before the time is up. A wait that begins at a whole millisecond, as
the end of another wait is, therefore takes the duration in milliseconds, rounded up
(`Duration.ticks`). Durations that differ by less than a millisecond may take the same, and then
timers do not tell them apart (`Duration.Told`).

Instants are counted in milliseconds, in 64 bits. A length of time with which this count could
overflow although half of it is left is no `Duration`, so whoever has one can set a timer to it. -/

namespace EthClient

/-- A length of time that a timer can be set to. -/
structure Duration where
  nanos : Nat
  /-- It is half of the count of the clock at most. -/
  le : nanos ≤ UInt64.size / 2 * 1000000
  deriving DecidableEq

namespace Duration

/-- Some milliseconds, or the longest duration if there are too many. -/
def ofMillis (ms : Nat) : Duration :=
  ⟨min ms (UInt64.size / 2) * 1000000, Nat.mul_le_mul_right _ (Nat.min_le_right _ _)⟩

instance : Coe Nat Duration := ⟨ofMillis⟩

instance (ms : Nat) : OfNat Duration ms := ⟨ofMillis ms⟩

/-- How many milliseconds of the clock it takes to wait for it. -/
def ticks (d : Duration) : Nat := (d.nanos + 999999) / 1000000

/-- Timers that are set to the two at the same time go off at different milliseconds. Whoever lets
an answer race with a deadline relies on this. -/
def Told (d d' : Duration) : Prop := d.ticks ≠ d'.ticks

/-- A timer goes off when the time is up, and within a millisecond after that. -/
theorem nanos_le_ticks (d : Duration) :
    d.nanos ≤ d.ticks * 1000000 ∧ d.ticks * 1000000 < d.nanos + 1000000 := by
  unfold ticks
  omega

/-- Whole milliseconds are taken as they are. -/
theorem ticks_ofMillis (ms : Nat) : (ofMillis ms).ticks = min ms (UInt64.size / 2) := by
  unfold ticks ofMillis
  dsimp only
  omega

/-- What is no shorter takes no less. -/
theorem ticks_mono {d d' : Duration} (h : d.nanos ≤ d'.nanos) : d.ticks ≤ d'.ticks := by
  unfold ticks
  omega

/-- What is longer, and told from it, takes more. -/
theorem Told.ticks_lt {d d' : Duration} (htold : d.Told d') (h : d.nanos < d'.nanos) :
    d.ticks < d'.ticks :=
  Nat.lt_of_le_of_ne (ticks_mono (Nat.le_of_lt h)) htold

/-- **Whole milliseconds are told from whatever is longer.** -/
theorem told_ofMillis {ms : Nat} {d : Duration} (h : (ofMillis ms).nanos < d.nanos) :
    (ofMillis ms).Told d := by
  have hceil := d.nanos_le_ticks
  have hexact : (ofMillis ms).ticks * 1000000 = (ofMillis ms).nanos := by
    rw [ticks_ofMillis, ofMillis]
  intro heq
  rw [← heq, hexact] at hceil
  exact Nat.not_le_of_lt h hceil.1

/-- **A timer can be set to it** as long as half of the count is left. -/
theorem add_ticks_lt (d : Duration) {now : Nat} (h : now < UInt64.size / 2) :
    now + d.ticks < UInt64.size := by
  have hle := d.le
  unfold ticks
  omega

end Duration

end EthClient
