import ProviderRouting.Catalog.Offering

/-!
# Logical models

A logical model is what callers ask for; its offerings are the providers that can serve it, each
provider at most once.
-/

namespace ProviderRouting

/-- A kind of content that a model takes or gives. -/
inductive Modality where
  /-- Plain text. -/
  | text
  /-- Images. -/
  | image
  /-- Sound. -/
  | audio
  /-- Moving images. -/
  | video
deriving DecidableEq, Inhabited

namespace Modality

/-- The name of a modality. -/
def name : Modality → String
  | text => "text"
  | image => "image"
  | audio => "audio"
  | video => "video"

/-- All modalities. -/
def all : List Modality := [text, image, audio, video]

/-- The modality with a given name. -/
def ofName? (name : String) : Option Modality := all.find? (·.name = name)

end Modality

/-- A model as callers ask for it. -/
structure Model where
  /-- The identifier that callers use. -/
  id : String
  /-- The name shown to people. -/
  displayName : String
  /-- The context window in tokens. -/
  contextLength : UInt32
  /-- The modalities it supports. -/
  modalities : List Modality
  /-- Free tags. -/
  tags : List String
  /-- Who offers it, in catalog order. -/
  offerings : List Offering
deriving Inhabited

/-- The offerings whose provider was not named before, given the providers seen so far. -/
def firstOfferings (seen : List String) : List Offering → List Offering
  | [] => []
  | offering :: rest =>
    if offering.provider ∈ seen then firstOfferings seen rest
    else offering :: firstOfferings (offering.provider :: seen) rest

namespace Model

/-- A text model that nobody offers. -/
def named (id : String) : Model where
  id := id
  displayName := id
  contextLength := 0
  modalities := [.text]
  tags := []
  offerings := []

/-- Replace the offerings. -/
def withOfferings (offerings : List Offering) (model : Model) : Model :=
  { model with offerings := offerings }

/-- Add an offering at the end. -/
def addOffering (offering : Offering) (model : Model) : Model :=
  model.withOfferings (model.offerings ++ [offering])

/-- The first offering of a provider. -/
def offering? (model : Model) (provider : String) : Option Offering :=
  model.offerings.find? (·.provider = provider)

/-- Keep the first offering of every provider. -/
def dedupe (model : Model) : Model :=
  model.withOfferings (firstOfferings [] model.offerings)

end Model

end ProviderRouting
