import ServingPreset.Json.Printer
import ServingPreset.Main
import ServingPreset.Preset.Json
import ServingPreset.Proofs.Generation.Protocol
import ServingPreset.Proofs.Session.History
import ServingPreset.Proofs.Session.Provenance
import ServingPreset.Proofs.Session.Erasure
import ServingPreset.Proofs.Session.Reordering
import ServingPreset.Proofs.Session.Permanence
import ServingPreset.Proofs.Session.Registration
import ServingPreset.Proofs.Session.Listed
import ServingPreset.Proofs.Generation.Footprint
import ServingPreset.Proofs.Generation.Credentials
import ServingPreset.Proofs.Generation.Documents
import ServingPreset.Proofs.Generation.Serving
import ServingPreset.Proofs.Generation.Storage
import ServingPreset.Proofs.Number.Binary64
import ServingPreset.Proofs.Number.DecimalText
import ServingPreset.Proofs.Remote.Client
import ServingPreset.Proofs.Resolver.Secrets
import ServingPreset.Proofs.Resolver.Validation
import ServingPreset.Proofs.Generation.Faults
import ServingPreset.Proofs.Repository
import ServingPreset.Proofs.Weights.Naming
import ServingPreset.Proofs.Repository.Rereading
import ServingPreset.Proofs.Repository.Addresses
import ServingPreset.Proofs.ServedModel
import ServingPreset.Proofs.Resolver.Architectures
import ServingPreset.Proofs.ConfigDocument
import ServingPreset.Proofs.KvCache.Latent
import ServingPreset.Proofs.Text.ByteOrder
import ServingPreset.Proofs.ModelIndex
import ServingPreset.Proofs.Launch.Reading
import ServingPreset.Proofs.Quantity.Reserve
import ServingPreset.Proofs.Launch.Flags
import ServingPreset.Proofs.SecretVault
import ServingPreset.Proofs.Preset.Json
import ServingPreset.Proofs.Remote.Listing
