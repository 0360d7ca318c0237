import MataDevice.Lib.Fields
import MataDevice.Nmea.SatelliteIds

/-!
# What a receiver makes of the GSV sentences

The sentences of a report are put out one after the other. A receiver starts a sentence at every
`$`, takes what comes up to the `*` as its data, and reads the fields between the commas if the
checksum of the data and the end of the sentence come next. No field has one of these signs in it,
so the receiver gets the fields of all sentences back, in the order in which they were put out.
-/

namespace MataDevice.Nmea

open List
open MataDevice.Format (bytes signed hex)

/-- The data of a sentence, of which `text` is what comes after the `$` -/
def acceptedData (text : List UInt8) : Option (List UInt8) :=
  let data := text.takeWhile fun b ↦ b ≠ 42
  let checksum := data.foldl (· ^^^ ·) 0
  if text = data ++ (bytes ['*'] ++ hex 2 checksum.toNat ++ [13, 10]) then some data else none

/-- The fields of the sentences that a receiver takes from a stream -/
def receivedFields (stream : List UInt8) : List (List (List UInt8)) :=
  ((stream.splitOn 36).filterMap acceptedData).map fun data ↦ data.splitOn 44

theorem acceptedData_append {data : List UInt8} (h : 42 ∉ data) :
    acceptedData (data ++ (bytes ['*'] ++ hex 2 (data.foldl (· ^^^ ·) 0 : UInt8).toNat ++
      [13, 10])) = some data := by
  have hdata : ∀ b ∈ data, decide (b ≠ 42) = true := fun b hb ↦
    decide_eq_true fun heq ↦ h (heq ▸ hb)
  have htake : (data ++ (bytes ['*'] ++ hex 2 (data.foldl (· ^^^ ·) 0 : UInt8).toNat ++
      [13, 10])).takeWhile (fun b ↦ b ≠ 42) = data := by
    rw [takeWhile_append_of_pos hdata, append_assoc]
    exact append_nil data
  rw [acceptedData, htake]
  exact if_pos rfl

/-! ## The signs in a sentence -/

theorem ne_comma_and_not_mem_signed {b : UInt8} (hb : b = 36 ∨ b = 42) :
    b ≠ 44 ∧ ∀ w n, b ∉ signed w n := by
  rcases hb with rfl | rfl <;>
    exact ⟨by decide, fun w n ↦ Format.not_mem_signed (by decide) (by decide)⟩

theorem not_mem_hex_two {b : UInt8} (hb : b = 36 ∨ b = 42) {n : ℕ} (h : n < 256) : b ∉ hex 2 n := by
  rcases hb with rfl | rfl <;> (revert n; decide +kernel)

namespace Gsv

variable {svNotify : GnssSvNotification}

theorem not_mem_svsText {b : UInt8} (hb : b = 36 ∨ b = 42) (svs : List (svNotify.Place × UInt32)) :
    b ∉ svsText svs := by
  obtain ⟨hcomma, hsigned⟩ := ne_comma_and_not_mem_signed hb
  simp only [svsText, mem_flatMap, not_exists, not_and]
  intro p _
  rw [GnssSv.text, GnssSv.positionText, GnssSv.cN0Text]
  split_ifs <;> simp [bytes, hcomma, hsigned]

/-- What is between the `$` and the `*` -/
def data (g : Gsv svNotify) : List UInt8 :=
  g.signal.talker ++ bytes ['G', 'S', 'V'] ++ 44 :: (signed 0 g.sentenceCount ++
    44 :: (signed 0 g.sentenceNumber ++ 44 :: (signed 2 g.svCount ++ (svsText g.svs ++
      44 :: hex 0 g.signal.signalId.toNat))))

/-- The fields of a sentence: the address, the numbers of the sentences and of the satellites, four
fields for each satellite, and the id of the signal -/
def fields (g : Gsv svNotify) : List (List UInt8) :=
  (g.signal.talker ++ bytes ['G', 'S', 'V']) :: signed 0 g.sentenceCount ::
    signed 0 g.sentenceNumber :: signed 2 g.svCount ::
    (g.svs.flatMap fun p ↦ [(svNotify.sv p.1).idField p.2,
      signed 2 (roundToInt (svNotify.sv p.1).elevation),
      signed 3 (roundToInt (svNotify.sv p.1).azimuth),
      if (svNotify.sv p.1).cN0Dbhz > 0 then (svNotify.sv p.1).cN0Text else []]) ++
    [hex 0 g.signal.signalId.toNat]

variable (g : Gsv svNotify)

theorem text_eq : g.text = 36 :: (g.data ++ (bytes ['*'] ++
    hex 2 (g.data.foldl (· ^^^ ·) 0 : UInt8).toNat ++ [13, 10])) := by
  have hbody : g.body = 36 :: g.data := by
    rw [body, gsvHead, data]
    simp [bytes]
  rw [text, withChecksum, hbody]
  rfl

theorem not_mem_data {b : UInt8} (hb : b = 36 ∨ b = 42) : b ∉ g.data := by
  obtain ⟨hcomma, hsigned⟩ := ne_comma_and_not_mem_signed hb
  have hstart : b ∉ g.signal.talker ++ bytes ['G', 'S', 'V'] := by
    rcases hb with rfl | rfl <;> cases g.signal <;> decide
  have hlast : b ∉ hex 0 g.signal.signalId.toNat := by
    rcases hb with rfl | rfl <;> cases g.signal <;> decide
  rw [data, mem_append, not_or]
  exact ⟨hstart, by simp [hcomma, hsigned, not_mem_svsText hb, hlast]⟩

/-- The fields are what the commas separate. -/
theorem splitOn_data : g.data.splitOn 44 = g.fields := by
  have hstart : 44 ∉ g.signal.talker ++ bytes ['G', 'S', 'V'] := by
    cases g.signal <;> decide
  rw [data, splitOn_append_cons_self_of_not_mem hstart,
    splitOn_append_cons_self_of_not_mem (comma_not_mem_signed _ _),
    splitOn_append_cons_self_of_not_mem (comma_not_mem_signed _ _),
    splitOn_append_svsText (comma_not_mem_signed _ _) (comma_not_mem_hex_signalId _), fields]
  rfl

end Gsv

/-- A receiver gets the fields of all sentences back. -/
theorem receivedFields_locNmeaGenerateSv (svNotify : GnssSvNotification) :
    receivedFields (locNmeaGenerateSv svNotify).flatten = svNotify.gsvs.map Gsv.fields := by
  let piece (g : Gsv svNotify) : List UInt8 :=
    g.data ++ (bytes ['*'] ++ hex 2 (g.data.foldl (· ^^^ ·) 0 : UInt8).toNat ++ [13, 10])
  have hpiece : ∀ g : Gsv svNotify, 36 ∉ piece g := by
    intro g
    have hdata := g.not_mem_data (Or.inl rfl)
    have hhex := not_mem_hex_two (Or.inl rfl) (UInt8.toNat_lt (g.data.foldl (· ^^^ ·) 0))
    simp [piece, bytes, hdata, hhex]
  have hstream : (locNmeaGenerateSv svNotify).flatten =
      [] ++ (svNotify.gsvs.map piece).flatMap (36 :: ·) := by
    rw [GnssSvNotification.locNmeaGenerateSv_eq, nil_append, flatMap_map]
    exact congrArg flatten (map_congr_left fun g _ ↦ g.text_eq)
  rw [receivedFields, hstream, Fields.splitOn_append_flatMap_cons not_mem_nil
    (forall_mem_map.mpr fun g _ ↦ hpiece g), filterMap_cons_none (by decide), filterMap_map]
  have haccepted : ∀ g : Gsv svNotify, (acceptedData ∘ piece) g = some g.data := fun g ↦
    acceptedData_append (g.not_mem_data (Or.inr rfl))
  rw [filterMap_congr fun g _ ↦ haccepted g, filterMap_eq_map', map_map]
  exact map_congr_left fun g _ ↦ g.splitOn_data

end MataDevice.Nmea
