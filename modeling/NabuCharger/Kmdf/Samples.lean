import NabuCharger.Ln8000.Telemetry

/-!
# `Kmdf.Samples`: the request for the stored samples

`GET_SAMPLES` copies samples out of the telemetry store into the client's buffer, behind a
header that repeats the first of them. A request here is what the handler learns of it: the
length of its input, the count it asks for (`none` when the input cannot be retrieved), and
the length of its output, or the status with which that cannot be retrieved.
-/

set_option autoImplicit false

namespace Kmdf

open Effectful Ln8000

/-- `STATUS_BUFFER_TOO_SMALL`. -/
def statusBufferTooSmall : Int := -1073741789

/-- One sample in the client's buffer. -/
structure Ln8000Sample where
  tsMs : Nat
  vbatUv : Nat
  vbusUv : Nat
  iinUa : Nat
  dieTempDc : Int
  opMode : Byte
  inputPresent : Bool
  deriving DecidableEq, Repr

/-- A sample that was not filled in. -/
def Ln8000Sample.default : Ln8000Sample where
  tsMs := 0
  vbatUv := 0
  vbusUv := 0
  iinUa := 0
  dieTempDc := 0
  opMode := 0
  inputPresent := false

/-- The sample as the client sees it. -/
def toSample (sample : TelemetrySample) : Ln8000Sample where
  tsMs := sample.tsMs
  vbatUv := sample.vbatUv
  vbusUv := sample.vbusUv
  iinUa := sample.iinUa
  dieTempDc := sample.dieTempDc
  opMode := sample.opMode.code
  inputPresent := sample.inputPresent

/-- Size of one sample in the buffer. -/
def sampleSize : Nat := 32

/-- Size of the header, its copy of the first sample included. -/
def samplesHeaderSize : Nat := 40

/-- Answer of `GET_SAMPLES`: the header, the samples behind it, and the bytes of both. -/
structure SamplesAnswer where
  count : Nat
  available : Nat
  first : Ln8000Sample
  samples : List Ln8000Sample
  information : Nat
  deriving DecidableEq, Repr

/-- How many samples fit behind the header. -/
def samplesCapacity (length : Nat) : Nat := (length - samplesHeaderSize) / sampleSize

/-- How many samples are written at most. -/
def samplesLimit (requested : Option Nat) (length : Nat) : Nat :=
  min (min (samplesCapacity length) (requested.getD (samplesCapacity length))) sampleRing

/-- The visits of `for_each_sample`: a sample is written while `written < limit`. -/
def writeSamples (limit : Nat) : List TelemetrySample → Nat → List Ln8000Sample
  | [], _ => []
  | sample :: rest, written =>
      if written < limit then toSample sample :: writeSamples limit rest (written + 1)
      else writeSamples limit rest written

/-- `GET_SAMPLES`. -/
def handleGetSamples (store : Telemetry) (inputLength : Nat) (requested : Option Nat)
    (output : Except Int Nat) : Except Int SamplesAnswer :=
  if inputLength < samplesHeaderSize then .error statusBufferTooSmall
  else
    match output with
    | .error status => .error status
    | .ok length =>
        -- as many as were asked for and as fit, from the oldest on
        let limit := samplesLimit requested length
        let samples := writeSamples limit store.forEachSample 0
        .ok
          { count := limit
            available := samples.length
            first := samples.head?.getD .default
            samples := samples
            information := samplesHeaderSize + samples.length * sampleSize }

/-- The visits write the first samples and skip the rest. -/
theorem writeSamples_eq (limit : Nat) (stored : List TelemetrySample) :
    ∀ written, writeSamples limit stored written =
      (stored.take (limit - written)).map toSample := by
  induction stored with
  | nil => intro written; simp [writeSamples]
  | cons sample rest ih =>
      intro written
      rw [writeSamples]
      split
      · next hroom =>
          -- room for this sample: one less for the rest
          have hsucc : limit - written = (limit - (written + 1)) + 1 := by omega
          rw [ih, hsucc, List.take_succ_cons, List.map_cons]
      · next hfull =>
          -- no room: the loop stops with samples left
          have hzero : limit - written = 0 := by omega
          rw [ih, hzero]
          simp

end Kmdf
