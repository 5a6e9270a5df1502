import Boilerplate.Catalog.BuiltIn.SharedFields

/-!
# Kubernetes

Definitions for deployments and charts.
-/

namespace Boilerplate.BuiltIn

def deploymentManifest : String := unlines [
  "apiVersion: apps/v1",
  "kind: Deployment",
  "metadata:",
  "  name: <%= appName | lower %>",
  "  namespace: <%= namespace | lower %>",
  "  labels:",
  "    app: <%= appName | lower %>",
  "spec:",
  "  replicas: <%= replicas %>",
  "  selector:",
  "    matchLabels:",
  "      app: <%= appName | lower %>",
  "  template:",
  "    metadata:",
  "      labels:",
  "        app: <%= appName | lower %>",
  "    spec:",
  "      containers:",
  "      - name: <%= appName | lower %>",
  "        image: <%= image %>",
  "        ports:",
  "        - containerPort: <%= targetPort %>",
  "        env:",
  "        - name: NODE_ENV",
  "          value: \"production\"",
  "        resources:",
  "          requests:",
  "            memory: \"128Mi\"",
  "            cpu: \"100m\"",
  "          limits:",
  "            memory: \"256Mi\"",
  "            cpu: \"200m\"",
  "        livenessProbe:",
  "          httpGet:",
  "            path: /health",
  "            port: <%= targetPort %>",
  "          initialDelaySeconds: 30",
  "          periodSeconds: 10",
  "        readinessProbe:",
  "          httpGet:",
  "            path: /ready",
  "            port: <%= targetPort %>",
  "          initialDelaySeconds: 5",
  "          periodSeconds: 5",
  "        securityContext:",
  "          runAsNonRoot: true",
  "          runAsUser: 1001",
  "          allowPrivilegeEscalation: false",
  "          readOnlyRootFilesystem: true"]

def serviceManifest : String := unlines [
  "apiVersion: v1",
  "kind: Service",
  "metadata:",
  "  name: <%= appName | lower %>-service",
  "  namespace: <%= namespace | lower %>",
  "  labels:",
  "    app: <%= appName | lower %>",
  "spec:",
  "  selector:",
  "    app: <%= appName | lower %>",
  "  ports:",
  "  - name: http",
  "    port: <%= port %>",
  "    targetPort: <%= targetPort %>",
  "    protocol: TCP",
  "  type: ClusterIP"]

def ingressManifest : String := unlines [
  "apiVersion: networking.k8s.io/v1",
  "kind: Ingress",
  "metadata:",
  "  name: <%= appName | lower %>-ingress",
  "  namespace: <%= namespace | lower %>",
  "  labels:",
  "    app: <%= appName | lower %>",
  "  annotations:",
  "    nginx.ingress.kubernetes.io/rewrite-target: /",
  "    cert-manager.io/cluster-issuer: letsencrypt-prod",
  "spec:",
  "  ingressClassName: nginx",
  "  tls:",
  "  - hosts:",
  "    - <%= appName | lower %>.example.com",
  "    secretName: <%= appName | lower %>-tls",
  "  rules:",
  "  - host: <%= appName | lower %>.example.com",
  "    http:",
  "      paths:",
  "      - path: /",
  "        pathType: Prefix",
  "        backend:",
  "          service:",
  "            name: <%= appName | lower %>-service",
  "            port:",
  "              number: <%= port %>"]

def chartManifest : String := unlines [
  "apiVersion: v2",
  "name: <%= chartName | kebab %>",
  "description: A Helm chart for <%= chartName %>",
  "type: application",
  "version: <%= chartVersion %>",
  "appVersion: \"<%= appVersion %>\""]

def chartValues : String := unlines [
  "# Default values for <%= chartName | kebab %>.",
  "replicaCount: 1",
  "",
  "image:",
  "  repository: nginx",
  "  pullPolicy: IfNotPresent",
  "  tag: \"\"",
  "",
  "imagePullSecrets: []",
  "nameOverride: \"\"",
  "fullnameOverride: \"\"",
  "",
  "serviceAccount:",
  "  create: true",
  "  annotations: \x7b\x7d",
  "  name: \"\"",
  "",
  "podAnnotations: \x7b\x7d",
  "",
  "podSecurityContext: \x7b\x7d",
  "",
  "securityContext: \x7b\x7d",
  "",
  "service:",
  "  type: ClusterIP",
  "  port: 80",
  "",
  "<% if includeIngress %>",
  "ingress:",
  "  enabled: false",
  "  className: \"\"",
  "  annotations: \x7b\x7d",
  "  hosts:",
  "    - host: chart-example.local",
  "      paths:",
  "        - path: /",
  "          pathType: ImplementationSpecific",
  "  tls: []",
  "",
  "<% endif %>",
  "resources: \x7b\x7d",
  "",
  "<% if includeHPA %>",
  "autoscaling:",
  "  enabled: false",
  "  minReplicas: 1",
  "  maxReplicas: 100",
  "  targetCPUUtilizationPercentage: 80",
  "",
  "<% endif %>",
  "nodeSelector: \x7b\x7d",
  "",
  "tolerations: []",
  "",
  "affinity: \x7b\x7d"]

def chartDeployment : String := unlines [
  "apiVersion: apps/v1",
  "kind: Deployment",
  "metadata:",
  "  name: \x7b\x7b include \"<%= chartName | kebab %>.fullname\" . \x7d\x7d",
  "  labels:",
  "    \x7b\x7b- include \"<%= chartName | kebab %>.labels\" . | nindent 4 \x7d\x7d",
  "spec:",
  "<% if includeHPA %>",
  "  \x7b\x7b- if not .Values.autoscaling.enabled \x7d\x7d",
  "  replicas: \x7b\x7b .Values.replicaCount \x7d\x7d",
  "  \x7b\x7b- end \x7d\x7d",
  "<% else %>",
  "  replicas: \x7b\x7b .Values.replicaCount \x7d\x7d",
  "<% endif %>",
  "  selector:",
  "    matchLabels:",
  "      \x7b\x7b- include \"<%= chartName | kebab %>.selectorLabels\" . | nindent 6 \x7d\x7d",
  "  template:",
  "    metadata:",
  "      \x7b\x7b- with .Values.podAnnotations \x7d\x7d",
  "      annotations:",
  "        \x7b\x7b- toYaml . | nindent 8 \x7d\x7d",
  "      \x7b\x7b- end \x7d\x7d",
  "      labels:",
  "        \x7b\x7b- include \"<%= chartName | kebab %>.selectorLabels\" . | nindent 8 \x7d\x7d",
  "    spec:",
  "      \x7b\x7b- with .Values.imagePullSecrets \x7d\x7d",
  "      imagePullSecrets:",
  "        \x7b\x7b- toYaml . | nindent 8 \x7d\x7d",
  "      \x7b\x7b- end \x7d\x7d",
  "      serviceAccountName: \x7b\x7b include \"<%= chartName | kebab %>.serviceAccountName\""
    ++ " . \x7d\x7d",
  "      securityContext:",
  "        \x7b\x7b- toYaml .Values.podSecurityContext | nindent 8 \x7d\x7d",
  "      containers:",
  "        - name: \x7b\x7b .Chart.Name \x7d\x7d",
  "          securityContext:",
  "            \x7b\x7b- toYaml .Values.securityContext | nindent 12 \x7d\x7d",
  "          image: \"\x7b\x7b .Values.image.repository \x7d\x7d:\x7b\x7b .Values.image.tag"
    ++ " | default .Chart.AppVersion \x7d\x7d\"",
  "          imagePullPolicy: \x7b\x7b .Values.image.pullPolicy \x7d\x7d",
  "          ports:",
  "            - name: http",
  "              containerPort: 80",
  "              protocol: TCP",
  "          livenessProbe:",
  "            httpGet:",
  "              path: /",
  "              port: http",
  "          readinessProbe:",
  "            httpGet:",
  "              path: /",
  "              port: http",
  "          resources:",
  "            \x7b\x7b- toYaml .Values.resources | nindent 12 \x7d\x7d",
  "      \x7b\x7b- with .Values.nodeSelector \x7d\x7d",
  "      nodeSelector:",
  "        \x7b\x7b- toYaml . | nindent 8 \x7d\x7d",
  "      \x7b\x7b- end \x7d\x7d",
  "      \x7b\x7b- with .Values.affinity \x7d\x7d",
  "      affinity:",
  "        \x7b\x7b- toYaml . | nindent 8 \x7d\x7d",
  "      \x7b\x7b- end \x7d\x7d",
  "      \x7b\x7b- with .Values.tolerations \x7d\x7d",
  "      tolerations:",
  "        \x7b\x7b- toYaml . | nindent 8 \x7d\x7d",
  "      \x7b\x7b- end \x7d\x7d"]

def k8sDeployment : Definition where
  id := "k8s-deployment"
  name := "Kubernetes Deployment"
  description := "Kubernetes deployment with service and ingress"
  category := "kubernetes"
  version := Definition.defaultVersion
  files := [
    ⟨"deployment.yaml", "./k8s/deployment.yaml",
      deploymentManifest, "yaml"⟩,
    ⟨"service.yaml", "./k8s/service.yaml",
      serviceManifest, "yaml"⟩,
    ⟨"ingress.yaml", "./k8s/ingress.yaml",
      ingressManifest, "yaml"⟩]
  fields := [
    (Field.plain "appName" "Application Name" .text)
        |>.mandatory
        |>.describedAs "Name of the application",
    kubernetesNamespace,
    (Field.plain "image" "Docker Image" .text)
        |>.mandatory
        |>.describedAs "Docker image to deploy",
    (Field.plain "replicas" "Replicas" .number)
        |>.mandatory
        |>.withDefault (.ofSmallNat 3)
        |>.describedAs "Number of replicas",
    (Field.plain "port" "Service Port" .number)
        |>.mandatory
        |>.withDefault (.ofSmallNat 80)
        |>.describedAs "Service port",
    (Field.plain "targetPort" "Target Port" .number)
        |>.mandatory
        |>.withDefault (.ofSmallNat 8080)
        |>.describedAs "Container port"]
  examples := .ofList [("web-app", .ofList [
    ("appName", .text "my-web-app"),
    ("namespace", .text "production"),
    ("image", .text "my-registry/my-web-app:latest"),
    ("replicas", .ofSmallNat 3),
    ("port", .ofSmallNat 80),
    ("targetPort", .ofSmallNat 3000)])]

def helmChart : Definition where
  id := "helm-chart"
  name := "Helm Chart"
  description := "Complete Helm chart with best practices"
  category := "kubernetes"
  version := Definition.defaultVersion
  files := [
    ⟨"Chart.yaml", "./<%= chartName | kebab %>/Chart.yaml",
      chartManifest, "yaml"⟩,
    ⟨"values.yaml", "./<%= chartName | kebab %>/values.yaml",
      chartValues, "yaml"⟩,
    ⟨"deployment.yaml", "./<%= chartName | kebab %>/templates/deployment.yaml",
      chartDeployment, "yaml"⟩]
  fields := [
    (Field.plain "chartName" "Chart Name" .text)
        |>.mandatory
        |>.describedAs "Name of the Helm chart",
    (Field.plain "chartVersion" "Chart Version" .text)
        |>.mandatory
        |>.withDefault (.text "0.1.0")
        |>.describedAs "Version of the chart",
    (Field.plain "appVersion" "App Version" .text)
        |>.mandatory
        |>.withDefault (.text "1.0.0")
        |>.describedAs "Version of the application",
    (Field.plain "includeIngress" "Include Ingress" .boolean)
        |>.withDefault (.boolean true)
        |>.describedAs "Include ingress configuration",
    (Field.plain "includeHPA" "Include HPA" .boolean)
        |>.withDefault (.boolean false)
        |>.describedAs "Include Horizontal Pod Autoscaler"]
  examples := .ofList [("microservice", .ofList [
    ("chartName", .text "my-service"),
    ("chartVersion", .text "0.1.0"),
    ("appVersion", .text "1.0.0"),
    ("includeIngress", .boolean true),
    ("includeHPA", .boolean true)])]

end Boilerplate.BuiltIn
