import CrossFlow.Core.Discovery.Transports

/-!
# `CrossFlow.Core.Discovery.ManualConfigFile`: endpoints read from a file

`ManualConfigFallback::loadFromFile` (`manual_config_fallback.cpp`). A file is its text as the
stream reads it. `unsigned long` is narrower on Windows, which decides what `std::stoul` refuses.
-/

set_option autoImplicit false

namespace CrossFlow

open StdString (stoul stoull)

/-- What `std::getline` takes from a text, one line after the other. -/
def getlines : StdString → List StdString
  | [] => []
  | c :: text =>
    if c = 10 then [] :: getlines text
    else
      match getlines text with
      | [] => [[c]]
      | line :: lines => (c :: line) :: lines

/-- The bits of `unsigned long`. -/
def Platform.ulongBits : Platform → Nat
  | .Mac => 64
  | .Win => 32

namespace ManualConfigFallback

/-- The two assignments to `ep.nodeId`. The second exception is swallowed after the first. -/
def readNodeId (nodeIdHex : StdString) : NodeId :=
  if nodeIdHex.length ≥ 32 then
    match stoull (nodeIdHex.take 16) 16 with
    | .error _ => { high := 0, low := 0 }
    | .ok high =>
      match stoull ((nodeIdHex.drop 16).take 16) 16 with
      | .error _ => { high, low := 0 }
      | .ok low => { high, low }
  else { high := 0, low := 0 }

/-- A turn of the loop over the lines. -/
def readEndpoint (platform : Platform) (line : StdString) : Option ManualEndpoint :=
  if line = [] ∨ line.head? = some 35 then none
  else
    match line.findIdx? (· = 58) with
    | none => none
    | some colonPos =>
      let text := line.drop (colonPos + 1)
      match stoul platform.ulongBits text with
      | .error _ => none
      | .ok port =>
        -- The cast to `u16` takes what is left of the number in 16 bits.
        some
          { host := line.take colonPos
            port := port.toUInt16
            nodeId :=
              match text.findIdx? (· = 32) with
              | none => { high := 0, low := 0 }
              | some spacePos => readNodeId (text.drop (spacePos + 1)) }

/-- `none` is a file that cannot be opened. -/
def loadFromFile (f : ManualConfigFallback) (platform : Platform) (file : Option StdString) :
    ManualConfigFallback × Option ErrorCode :=
  match file with
  | none => (f, some .DiscManualFallback)
  | some text => ({ f with endpoints := (getlines text).filterMap (readEndpoint platform) }, none)

end ManualConfigFallback

end CrossFlow
