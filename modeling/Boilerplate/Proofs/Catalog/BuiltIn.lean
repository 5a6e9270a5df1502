import Boilerplate.Catalog.BuiltIn
import Boilerplate.Proofs.Catalog.Registry
import Boilerplate.Proofs.Export.Delivery
import Boilerplate.Proofs.Generation.SoundDefinition

/-! # The built-in definitions are sound

Their sources are parsed and checked by evaluation. What follows holds for every configuration: if
it is resolved then the files are generated, packed and exported.
-/

namespace Boilerplate

theorem toList_unlines_nil : (unlines []).toList = [] :=
  rfl

theorem toList_unlines_cons (l : String) (rest : List String) :
    (unlines (l :: rest)).toList = l.toList ++ '\n' :: (unlines rest).toList := by
  simp [unlines, String.toList_join]

namespace BuiltIn

open Export (Accepted)
open Template (sourceFits)

theorem definitions_valid : ∀ d ∈ definitions, d.validate = .ok () := by
  decide +kernel

theorem ids_nodup : (definitions.map (·.id)).Nodup := by
  decide +kernel

theorem paths_sound : ∀ d ∈ definitions,
    (∀ f ∈ d.files, f.pathFits = true) ∧ d.files.Pairwise fun f g => f.apart g = true := by
  decide +kernel

theorem names_fit : ∀ d ∈ definitions, ∀ f ∈ d.files,
    sourceFits d.kinds f.name.toList = true ∧ sourceFits d.kinds f.path.toList = true := by
  decide +kernel

/-- The contents of files, each with its definition. -/
def contents : List (Definition × String) :=
  definitions.flatMap fun d => d.files.map fun f => (d, f.content)

set_option maxRecDepth 4000 in
theorem contents_fit : ∀ e ∈ contents, sourceFits e.1.kinds e.2.toList = true := by
  change ∀ e ∈ [(jenkinsPipeline, jenkinsfile), (githubActions, githubWorkflow),
    (gitlabCi, gitlabPipeline), (dockerfileNodejs, nodeDockerfile),
    (dockerfilePython, pythonDockerfile), (dockerfilePython, pythonDockerignore),
    (k8sDeployment, deploymentManifest), (k8sDeployment, serviceManifest),
    (k8sDeployment, ingressManifest), (helmChart, chartManifest), (helmChart, chartValues),
    (helmChart, chartDeployment), (podSecurityPolicy, podPolicyManifest),
    (podSecurityPolicy, podPolicyRoles), (networkPolicy, networkPolicyManifest),
    (networkPolicy, denyAllManifest)], sourceFits e.1.kinds e.2.toList = true
  simp only [List.forall_mem_cons, jenkinsfile, githubWorkflow, gitlabPipeline, nodeDockerfile,
    pythonDockerfile, pythonDockerignore, deploymentManifest, serviceManifest, ingressManifest,
    chartManifest, chartValues, chartDeployment, podPolicyManifest, podPolicyRoles,
    networkPolicyManifest, denyAllManifest, toList_unlines_cons, toList_unlines_nil,
    String.toList_append]
  repeat' apply And.intro
  on_goal 17 => exact List.forall_mem_nil _
  -- A literal is opened as a list of characters: decoding its bytes takes the kernel too long.
  all_goals
    repeat rw [String.toList_ofList]
    decide +kernel

theorem isSound {d : Definition} (hd : d ∈ definitions) : d.IsSound where
  valid := definitions_valid d hd
  sources := by
    intro f hf
    obtain ⟨hName, hPath⟩ := names_fit d hd f hf
    have hContent : (d, f.content) ∈ contents :=
      List.mem_flatMap.mpr ⟨d, hd, List.mem_map.mpr ⟨f, hf, rfl⟩⟩
    rw [FileTemplate.fits, hName, hPath, contents_fit _ hContent]
    rfl
  paths := (paths_sound d hd).1
  apart := (paths_sound d hd).2

theorem definitions_builtIn : Registry.builtIn.definitions = definitions := by
  let start := categories.foldl Registry.registerCategory Registry.empty
  have hIds : ((start.definitions ++ definitions).map (·.id)).Nodup := ids_nodup
  exact (Registry.registerAll_ok definitions_valid hIds).2

/-- Every configuration that is resolved for a built-in definition generates its files in order.
Their paths are accepted and differ, so that they can be packed, and exported to an empty memory. -/
theorem generates_of_resolveConfig {d : Definition} {supplied resolved : Config} (stamp : Stamp)
    (root : String) (hd : d ∈ definitions) (h : d.resolveConfig supplied = .ok resolved) :
    ∃ m, Registry.builtIn.generate d.id supplied stamp = .ok m ∧
      List.Forall₂ (fun f g => f.render d.id resolved = .ok g) d.files m.files ∧
      (∃ paths, Accepted m.files paths ∧ paths.Nodup) ∧
      (∃ package, m.package = .ok package) ∧
      ∃ written s, exportFiles Memory.fileSystem m.files root false Memory.empty =
        (.ok written, s) := by
  obtain ⟨files, paths, hFiles, hPaths, hDistinct, hZero⟩ := (isSound hd).renderFiles_ok h
  refine ⟨d.manifest supplied stamp files, ?_, ?_, ⟨paths, hPaths, hDistinct⟩, ?_, ?_⟩
  · rw [Registry.generate, bind_eq_ok]
    refine ⟨d, ?_, ?_⟩
    · rw [← definitions_builtIn] at hd
      exact Registry.get_ok hd
    · rw [bind_eq_ok]
      exact ⟨files, by rw [Definition.generate, h]; exact hFiles, rfl⟩
  · exact mapM_eq_ok.mp hFiles
  · exact ⟨_, Manifest.package_ok hPaths hDistinct hZero⟩
  · exact Export.exportFiles_ok_iff.mpr ⟨paths, hPaths, fun _ _ _ => rfl⟩

/-- The name of the chart has no letter, and a key that no field declares is a list. -/
theorem helmChart_generates_dots :
    let supplied : Config := .ofList [("chartName", .text "../.."), ("stage", .list ["a", "b"])]
    let resolved : Config := .ofList [("appVersion", .text "1.0.0"), ("chartName", .text "../.."),
      ("chartVersion", .text "0.1.0"), ("includeHPA", .boolean false),
      ("includeIngress", .boolean true), ("stage", .list ["a", "b"])]
    helmChart.resolveConfig supplied = .ok resolved ∧
      ∀ stamp root, ∃ m, Registry.builtIn.generate helmChart.id supplied stamp = .ok m ∧
        List.Forall₂ (fun f g => f.render helmChart.id resolved = .ok g) helmChart.files m.files ∧
        (∃ paths, Accepted m.files paths ∧ paths.Nodup) ∧
        (∃ package, m.package = .ok package) ∧
        ∃ written s, exportFiles Memory.fileSystem m.files root false Memory.empty =
          (.ok written, s) := by
  intro supplied resolved
  have hMem : helmChart ∈ definitions := by
    simp [definitions]
  have hResolved : helmChart.resolveConfig supplied = .ok resolved := by decide +kernel
  exact ⟨hResolved, fun stamp root => generates_of_resolveConfig stamp root hMem hResolved⟩

end BuiltIn

end Boilerplate
