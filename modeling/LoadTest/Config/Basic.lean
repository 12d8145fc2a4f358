import LoadTest.Analysis.Analyzer
import LoadTest.Settings

/-!
# Configuration

The settings of every component. A section that a file leaves out has its defaults.
-/

namespace LoadTest

structure Config where
  generator : GeneratorSettings := {}
  sampler : SamplerSettings := {}
  coordinator : CoordinatorSettings := {}
  analyzer : AnalyzerSettings := {}
  logging : LoggingSettings := {}
  deriving Inhabited

namespace Config

def toJson (c : Config) : Json :=
  .obj
    [("generator", c.generator.toJson),
     ("sampler", c.sampler.toJson),
     ("coordinator", c.coordinator.toJson),
     ("analyzer", c.analyzer.toJson),
     ("logging", c.logging.toJson)]

def fields : List String := ["generator", "sampler", "coordinator", "analyzer", "logging"]

def decode? {ν : Type} (d : Dialect ν) (v : ν) : Option Config := do
  let [generator, sampler, coordinator, analyzer, logging] ← d.slots? fields v | none
  return {
    generator := ← generator.orElse (GeneratorSettings.decode? d) {}
    sampler := ← sampler.orElse (SamplerSettings.decode? d) {}
    coordinator := ← coordinator.orElse (CoordinatorSettings.decode? d) {}
    analyzer := ← analyzer.orElse (AnalyzerSettings.decode? d) {}
    logging := ← logging.orElse (LoggingSettings.decode? d) {} }

end Config

end LoadTest
