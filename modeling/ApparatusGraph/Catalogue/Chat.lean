/-
# The chat processor

The processor `prompt` sends a text to a chat model and gives back its reply.  A model
answers system instructions and a prompt with a call, so it may take its time, remember
what it was asked, or ask for the run to stop.  A client is a model that does none of
this and replies at once.
-/

import ApparatusGraph.Catalogue.Text

namespace ApparatusGraph
namespace Catalogue

/-- The system instructions when a node binds none. -/
def defaultSystemPrompt : String :=
  "You are a precise assistant. Answer the request directly, without preamble."

/-- A chat model: how it is shown, and its call for system instructions and a prompt. -/
structure ChatModel (σ : Type) where
  name : String
  complete : String → String → Call σ String

/-- A chat model that replies at once. -/
structure ChatClient where
  name : String
  complete : String → String → Except Failure String

variable {σ : Type}

namespace ChatClient

/-- A client as a model. -/
def model (client : ChatClient) : ChatModel σ :=
  ⟨client.name, fun system prompt => .answer (client.complete system prompt)⟩

instance : Coe ChatClient (ChatModel σ) := ⟨model⟩

/-- Replies with the instructions and the prompt. -/
def parrot : ChatClient := ⟨"Parrot", fun system prompt => .ok s!"[{system}] {prompt}"⟩

/-- Replies with the prompt between angle brackets. -/
def echo : ChatClient := ⟨"EchoModel", fun _ prompt => .ok s!"<{prompt}>"⟩

/-- Fails. -/
def offline : ChatClient := ⟨"Offline", fun _ _ => .error ⟨"provider offline", []⟩⟩

end ChatClient

/-- The call of a chat model for the prompt in a record. -/
def promptCall (model : ChatModel σ) (input : Record) : Call σ Record :=
  match textVar input "prompt" with
  | .error cause => .fail cause
  | .ok prompt =>
    let system := textVarOr input "system" defaultSystemPrompt
    .note (.modelCalled prompt.utf8ByteSize model.name)
      ((model.complete system prompt).map fun reply => single "text" (.text reply))

/-- Sends the prompt to the model and gives back its reply. -/
def prompt (model : ChatModel σ) : Except RegistryError (Processor σ) :=
  (Draft.ofSettings [
    .name "prompt",
    .description "Ask a chat model and return its reply",
    .var .input "prompt" (.text "user message"),
    .var .input "system" (TypeTag.text "system instructions").asOptional,
    .var .output "text" (.text "model reply"),
    .callable (promptCall model)]).toProcessor

/-- The foundry of the catalogue and the chat processor. -/
def chatFoundry (model : ChatModel σ) : Except RegistryError (Foundry σ) := do
  Foundry.register ((← processors) ++ [← prompt model]) (← switchers)

end Catalogue
end ApparatusGraph
