import DeviceLayer.Native.Platform

/-!
# Devices on their platform

A device that talks to the world outside acts on itself and on the platform together.
-/

namespace DeviceLayer

/-- A device and the platform it runs on. -/
structure Live (δ : Type) where
  platform : Platform
  device : δ

namespace Live

variable {δ α : Type}

/-- An action on the platform alone. -/
def onPlatform (action : Action Platform α) : Action (Live δ) α :=
  action.within (·.platform) fun p s => { s with platform := p }

/-- A request to the platform that cannot fail. -/
def request (f : Platform → α × Platform) : Action (Live δ) α :=
  modifyGet fun s => ((f s.platform).1, { s with platform := (f s.platform).2 })

/-- Leaves an event in the trace. -/
def record (e : Event) : Action (Live δ) Unit :=
  modify fun s => { s with platform := s.platform.record e }

/-- The device as it is. -/
def self : Action (Live δ) δ := do return (← get).device

/-- Changes the device. -/
def update (f : δ → δ) : Action (Live δ) Unit :=
  modify fun s => { s with device := f s.device }

end Live

end DeviceLayer
