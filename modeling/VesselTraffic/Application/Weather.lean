import VesselTraffic.Position

/-!
# Weather and water

Readings of a station for weather and water. Numbers that stand for an unknown
reading are kept and scaled like the others, but for the air pressure.
-/
namespace VesselTraffic

/-- A current at some depth: knots, degrees and metres. -/
structure CurrentReading where
  speed : Quantity
  direction : UInt16
  depth : UInt8
  deriving DecidableEq, Repr

/-- The height, period and direction of waves: metres, seconds and degrees. -/
structure WaveReading where
  height : Quantity
  period : UInt8
  direction : UInt16
  deriving DecidableEq, Repr

structure Weather where
  position : Position
  accurate : Bool
  day : UInt8
  hour : UInt8
  minute : UInt8
  windSpeed : UInt8
  windGust : UInt8
  windDirection : UInt16
  gustDirection : UInt16
  airTemperature : Quantity
  humidity : UInt8
  dewPoint : Quantity
  airPressure : Option UInt16
  pressureTendency : UInt8
  visibilityBeyond : Bool
  visibility : Quantity
  waterLevel : Quantity
  waterLevelTrend : UInt8
  surfaceSpeed : Quantity
  surfaceDirection : UInt16
  current2 : CurrentReading
  current3 : CurrentReading
  wave : WaveReading
  swell : WaveReading
  seaState : UInt8
  waterTemperature : Quantity
  precipitation : UInt8
  salinity : Quantity
  ice : UInt8
  deriving DecidableEq, Repr

namespace CurrentReading

def decode (v : BitView) (start : Nat) : CurrentReading where
  speed := v.unsignedParts 0 8 10 start
  direction := v.uint16 8 17 start
  depth := v.uint8 17 22 start

def datum (c : CurrentReading) : Datum :=
  .record "CurrentMeasurement" .silent
    [.named "speed" (.real c.speed.value), .named "direction" (.half c.direction),
     .named "depth" (.byte c.depth)]

end CurrentReading

namespace WaveReading

def decode (v : BitView) (start : Nat) : WaveReading where
  height := v.unsignedParts 0 8 10 start
  period := v.uint8 8 14 start
  direction := v.uint16 14 23 start

end WaveReading

namespace Weather

/-- Pressures count from 799 hPa; 511 stands for an unknown one. -/
def pressure? (reading : UInt16) : Option UInt16 := if reading = 511 then none else some (reading + 799)

/-- Water levels are in centimetres above ten metres below the chart. -/
def level (v : BitView) : Quantity := ⟨(v.unsigned 145 157 : Int) - 1000, 100⟩

def decode (v : BitView) : Weather where
  position := Position.medium v 0
  accurate := v.bit 49
  day := v.uint8 50 55
  hour := v.uint8 55 60
  minute := v.uint8 60 66
  windSpeed := v.uint8 66 73
  windGust := v.uint8 73 80
  windDirection := v.uint16 80 89
  gustDirection := v.uint16 89 98
  airTemperature := v.signedParts 98 109 10
  humidity := v.uint8 109 116
  dewPoint := v.signedParts 116 126 10
  airPressure := pressure? (v.uint16 126 135)
  pressureTendency := v.uint8 135 137
  visibilityBeyond := v.bit 137
  visibility := v.unsignedParts 138 145 10
  waterLevel := level v
  waterLevelTrend := v.uint8 157 159
  surfaceSpeed := v.unsignedParts 159 167 10
  surfaceDirection := v.uint16 167 176
  current2 := CurrentReading.decode v 176
  current3 := CurrentReading.decode v 198
  wave := WaveReading.decode v 220
  swell := WaveReading.decode v 243
  seaState := v.uint8 266 270
  waterTemperature := v.signedParts 270 280 10
  precipitation := v.uint8 280 283
  salinity := v.unsignedParts 283 292 10
  ice := v.uint8 292 294

def datum (w : Weather) : Datum :=
  .record "MetHydroData" .silent
    (w.position.members ++
     [.named "position_accuracy" (.truth w.accurate),
      .named "day" (.byte w.day),
      .named "hour" (.byte w.hour),
      .named "minute" (.byte w.minute),
      .named "wind_speed" (.byte w.windSpeed),
      .named "wind_gust" (.byte w.windGust),
      .named "wind_direction" (.half w.windDirection),
      .named "wind_gust_direction" (.half w.gustDirection),
      .named "air_temperature" (.real w.airTemperature.value),
      .named "relative_humidity" (.byte w.humidity),
      .named "dew_point" (.real w.dewPoint.value),
      .named "air_pressure" (.ofOption .half w.airPressure),
      .named "air_pressure_tendency" (.byte w.pressureTendency),
      .named "visibility_greater_than" (.truth w.visibilityBeyond),
      .named "horizontal_visibility" (.real w.visibility.value),
      .named "water_level" (.real w.waterLevel.value),
      .named "water_level_trend" (.byte w.waterLevelTrend),
      .named "surface_current_speed" (.real w.surfaceSpeed.value),
      .named "surface_current_direction" (.half w.surfaceDirection),
      .named "current_2" w.current2.datum,
      .named "current_3" w.current3.datum,
      .named "wave_height" (.real w.wave.height.value),
      .named "wave_period" (.byte w.wave.period),
      .named "wave_direction" (.half w.wave.direction),
      .named "swell_height" (.real w.swell.height.value),
      .named "swell_period" (.byte w.swell.period),
      .named "swell_direction" (.half w.swell.direction),
      .named "sea_state" (.byte w.seaState),
      .named "water_temperature" (.real w.waterTemperature.value),
      .named "precipitation_type" (.byte w.precipitation),
      .named "salinity" (.real w.salinity.value),
      .named "ice" (.byte w.ice)])

end Weather

end VesselTraffic
